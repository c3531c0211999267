import SharedVerifiers.Proofs.Renaming
import SharedVerifiers.Proofs.Signatures
namespace SharedVerifiers
open Condition

namespace Condition

def Bindings.Inked (b : Bindings) : Prop := ∀ name value, b.get? name = some value → Text.hasInk value = true

theorem Bindings.empty_inked : Bindings.empty.Inked := by
  intro name value bound
  cases bound

theorem Bindings.Inked.bind {b : Bindings} (inked : b.Inked) (name : String) {value : String}
    (visible : Text.hasInk value = true) : (b.bind name value).Inked := by
  intro asked given bound
  rw [Bindings.get_bind] at bound
  split at bound
  · cases bound
    exact visible
  · exact inked asked given bound

theorem Piece.fill_ink {b : Bindings} (inked : b.Inked) (piece : Piece) :
    (piece.fill b).any (fun c => !Text.isBlank c) = piece.print.any (fun c => !Text.isBlank c) := by
  cases piece with
  | plain c => rfl
  | doubled => rfl
  | lone => rfl
  | hole name =>
    -- A placeholder is seen by its dollar, and seen again as what goes in for it.
    have dollar : (Piece.hole name).print.any (fun c => !Text.isBlank c) = true := rfl
    rw [dollar,Piece.fill]
    split
    · rename_i value bound
      exact inked _ value bound
    · rfl

theorem resolve_ink {b : Bindings} (inked : b.Inked) (template : String) :
    Text.hasInk (resolve template b).text = Text.hasInk template := by
  rw [Text.hasInk,resolve,String.toList_ofList,fill,List.any_flatMap,Text.hasInk,← pieces_print,print,List.any_flatMap]
  exact congrArg _ (funext (Piece.fill_ink inked))

end Condition

theorem verifierBindings_inked (k : Kind) : (verifierBindings k).Inked := by
  have word : Text.hasInk k.name = true := by cases k <;> decide
  exact (Bindings.empty_inked.bind selfName word).bind opName (by decide)

theorem matcherBindings_inked (k : Kind) : (matcherBindings k).Inked :=
  (verifierBindings_inked k).bind builderName (by decide)

theorem Request.make_ink (request : Request) (k : Kind) (e : Entry) :
    Text.hasInk (request.make k e).slots.condition = e.constraint.hasPredicate := by
  cases request with
  | verifiers =>
    rw [make,e.verifier_condition]
    exact resolve_ink (verifierBindings_inked k) e.constraint.condition
  | matchers leaves =>
    rw [make,e.matcher_condition]
    exact resolve_ink (matcherBindings_inked k) e.constraint.condition

namespace Tables
variable {P : Kind → Constraint → Prop} {t : Tables}

def Keeps (P : Kind → Constraint → Prop) (t : Tables) : Prop := ∀ k, ∀ e ∈ (t.registry k).entries, P k e.constraint

theorem ofSource_keeps (P : Kind → Constraint → Prop) (source : String) (options : Options) :
    (ofSource source options).Keeps P := by
  intro k e member
  cases k <;> cases member

theorem collect_keeps (keeps : t.Keeps P) {k : Kind} {c : Constraint} (holds : P k c) :
    (t.collect k c).1.Keeps P := by
  intro asked e member
  rw [collect_registry] at member
  split at member
  · rename_i same
    subst same
    rcases (t.registry asked).intern_cases t.names c with ⟨_,old⟩ | ⟨_,longer⟩
    · rw [old] at member
      exact keeps asked e member
    · rw [longer] at member
      rcases List.mem_append.mp member with before | added
      · exact keeps asked e before
      · cases List.mem_singleton.mp added
        exact holds
  · exact keeps asked e member

theorem collectAll_keeps (keeps : t.Keeps P) {offers : List (Kind × Constraint)}
    (holds : ∀ offer ∈ offers, P offer.1 offer.2) : (t.collectAll offers).Keeps P := by
  induction offers generalizing t with
  | nil => exact keeps
  | cons offer rest ih =>
    obtain ⟨first,later⟩ := List.forall_mem_cons.mp holds
    exact ih (collect_keeps keeps first) later

theorem wanted_keeps {request : Request} (keeps : (t.prepared request).Keeps P) :
    ∀ i ∈ t.wanted request, ∃ k e, P k e.constraint ∧ i = request.make k e := by
  intro i written
  rw [wanted_make] at written
  obtain ⟨k,_,made⟩ := List.mem_flatMap.mp written
  obtain ⟨e,member,rfl⟩ := List.mem_map.mp made
  exact ⟨k,e,keeps k e member,rfl⟩

theorem respond_begins {σ : Type} (t : Tables) (sink : Sink σ) (s : σ) (request : Request) :
    (t.respond sink s request).taken <+: Instance.rowText (t.wanted request) := by
  obtain ⟨journal,_,accounted⟩ := (t.prepared request).emit_accounted request.entryPoint (t.wanted request)
    ((t.prepared request).counts request.kinds) sink s
  rw [respond_emit,accounted.taken]
  exact accounted.growing journal List.prefix_rfl

end Tables

structure Answer.Shows (a : Answer) (P : Kind → Constraint → Prop) : Prop where
  taken : a.taken <+: Instance.rowText a.row
  made : ∀ i ∈ a.row, ∃ (request : Request) (k : Kind) (e : Entry), P k e.constraint ∧ i = request.make k e

theorem Tables.answer_shows {P : Kind → Constraint → Prop} {t : Tables} (keeps : t.Keeps P) (request : Request)
    (holds : ∀ offer ∈ request.offers, P offer.1 offer.2) {σ : Type} (sink : Sink σ) (s : σ) :
    (t.answer sink s request).Shows P := by
  refine ⟨t.respond_begins sink s request,?_⟩
  have prepared : (t.prepared request).Keeps P := by
    rw [t.prepared_offers]
    exact collectAll_keeps keeps holds
  intro i written
  exact ⟨request,wanted_keeps prepared i written⟩

theorem answers_show {P : Kind → Constraint → Prop} {t : Tables} (keeps : t.Keeps P) {calls : List Call}
    (holds : ∀ offer ∈ calls.flatMap Call.offers, P offer.1 offer.2) : ∀ a ∈ answers t calls, a.Shows P := by
  induction calls generalizing t with
  | nil =>
    intro a given
    cases given
  | cons call rest ih =>
    rw [List.flatMap_cons] at holds
    obtain ⟨now,later⟩ := List.forall_mem_append.mp holds
    have after : (call.after t).Keeps P := by
      rw [call.after_offers]
      exact Tables.collectAll_keeps keeps now
    have first : ∀ a ∈ (call.answer? t).toList, a.Shows P := by
      cases call with
      | collect operations =>
        intro a given
        cases given
      | emitVerifiers sink s =>
        intro a given
        cases List.mem_singleton.mp given
        exact Tables.answer_shows keeps .verifiers now sink s
      | emitMatchers leaves sink s =>
        intro a given
        cases List.mem_singleton.mp given
        exact Tables.answer_shows keeps (.matchers leaves) now sink s
    exact List.forall_mem_append.mpr ⟨first,ih after later⟩

theorem offers_predicated {calls : List Call} : ∀ offer ∈ calls.flatMap Call.offers, offer.2.hasPredicate = true := by
  rintro ⟨k,c⟩ offered
  rcases (mem_session_offers calls k c).mp offered with ⟨_,tested,_⟩ | ⟨_,tested,_⟩
  · exact tested
  · exact tested

theorem offers_true {calls : List Call} : ∀ offer ∈ calls.flatMap Call.offers, offer.1 = .prop →
    offer.2.condition = "true" → ∃ l, Passed calls l ∧ l.role = .prop ∧ l.constraint = offer.2 := by
  rintro ⟨k,c⟩ offered rfl vacuous
  rcases (mem_session_offers calls .prop c).mp offered with ⟨_,_,hoisted⟩ | ⟨⟨l,passed,inKind,same⟩,_,_⟩
  · exact absurd vacuous (((c.hoistable_rules .prop).mp hoisted).2 rfl).2
  · refine ⟨l,passed,?_,same⟩
    cases role : l.role with
    | prop => rfl
    | operand => simp [Leaf.kind,role,Role.kind] at inKind
    | attr => simp [Leaf.kind,role,Role.kind] at inKind

theorem Entry.verifier_true (e : Entry) :
    (e.verifier .prop).slots.condition = "true" ↔ e.constraint.condition = "true" := by
  rw [e.verifier_condition]
  exact resolves_true e.constraint.condition

theorem Request.make_true {request : Request} {k : Kind} {e : Entry}
    (verifies : (request.make k e).template = .verifier .prop) (shown : (request.make k e).slots.condition = "true") :
    k = .prop ∧ e.constraint.condition = "true" := by
  cases request with
  | verifiers =>
    cases verifies
    exact ⟨rfl,e.verifier_true.mp shown⟩
  | matchers leaves => cases verifies

theorem passed_true {source : String} {options : Options} {calls : List Call} {l : Leaf} (passed : Passed calls l)
    (inRole : l.role = .prop) (vacuous : l.constraint.condition = "true") :
    ∃ i ∈ (session source options calls).verifiers, i.template = .verifier .prop ∧ i.slots.condition = "true" := by
  have inKind : l.kind = .prop := by rw [Leaf.kind,inRole,Role.kind]
  have tested : l.constraint.hasPredicate = true := by
    rw [Constraint.hasPredicate,vacuous]
    decide
  have unnamed : l.constraint.placeholders = [] := by
    rw [Constraint.placeholders,vacuous]
    decide
  have matched : l.constraint.matchable .prop = true := by
    refine (l.constraint.matchable_exact .prop).mpr ?_
    intro name used
    rw [unnamed] at used
    cases used
  have offered : (.prop,l.constraint) ∈ calls.flatMap Call.offers :=
    (mem_session_offers calls .prop l.constraint).mpr (.inr ⟨⟨l,passed,inKind,rfl⟩,tested,matched⟩)
  obtain ⟨name,found⟩ := session_offer_found source options offered
  obtain ⟨e,member,same,_⟩ := Tables.lookup_entry found
  exact ⟨e.verifier .prop,Tables.verifier_written member,rfl,e.verifier_true.mpr (same.condition.trans vacuous)⟩

namespace Template

structure Guards (t : Template) (front back : List Mark) : Prop where
  row : t.marks = front ++ letters "!(".toList ++ .value .condition :: letters "))".toList ++ back
  only : .value .condition ∉ front ++ back

theorem guards (t : Template) : ∃ front back, t.Guards front back := by
  have found : let front := t.marks.takeWhile (· ≠ .value .condition)
      let back := (t.marks.dropWhile (· ≠ .value .condition)).tail
      t.marks = front.take (front.length - 2) ++ letters "!(".toList ++ .value .condition :: letters "))".toList ++
        back.drop 2 ∧ .value .condition ∉ front.take (front.length - 2) ++ back.drop 2 := by
    rw [t.spelled.property]
    rcases t with (_ | _ | _ | _ | _) | _ <;> decide +kernel
  exact ⟨_,_,found.1,found.2⟩

end Template

open Template

def Instance.Tests (i : Instance) (test : String) : Prop :=
  ∃ front back, i.template.Guards front back ∧
    i.text.toList = written i.slots front ++ "!(".toList ++ test.toList ++ "))".toList ++ written i.slots back

theorem Instance.tests (i : Instance) : i.Tests i.slots.condition := by
  obtain ⟨front,back,guards⟩ := i.template.guards
  refine ⟨front,back,guards,?_⟩
  simp only [text,← written_marks,guards.row,written_append,written_cons,written_letters,Mark.written,Slots.get,
    List.append_assoc,List.cons_append]

-- A test that is written can be seen, whatever became of its placeholders and
-- whichever of the two texts it is in. For a property that operations demand it
-- is more than `true`; only a leaf can bring that in.
theorem written_tests_inked (source : String) (options : Options) (calls : List Call) :
    (∀ a ∈ answers (Tables.ofSource source options) calls, a.taken <+: Instance.rowText a.row ∧
      ∀ i ∈ a.row, i.Tests i.slots.condition ∧ ∃ c ∈ i.slots.condition.toList, Text.isBlank c = false) ∧
    ((∀ l, Passed calls l → l.role = .prop → l.constraint.condition ≠ "true") →
      ∀ a ∈ answers (Tables.ofSource source options) calls, ∀ i ∈ a.row,
        i.template = .verifier .prop → i.slots.condition ≠ "true") ∧
    ∀ l, Passed calls l → l.role = .prop → l.constraint.condition = "true" →
      ∃ i ∈ (session source options calls).verifiers, i.template = .verifier .prop ∧ i.slots.condition = "true" := by
  refine ⟨?_,?_,fun l => passed_true⟩
  · intro a given
    have shows : a.Shows fun _ c => c.hasPredicate = true :=
      answers_show (Tables.ofSource_keeps _ source options) offers_predicated a given
    refine ⟨shows.taken,?_⟩
    intro i written
    obtain ⟨request,k,e,tested,rfl⟩ := shows.made i written
    refine ⟨Instance.tests _,(Text.hasInk_exact _).mp ?_⟩
    rw [request.make_ink,tested]
  · intro harmless a given i written verifies vacuous
    have brought : ∀ offer ∈ calls.flatMap Call.offers, offer.1 = .prop → offer.2.condition ≠ "true" := by
      intro offer offered inKind whole
      obtain ⟨l,passed,inRole,same⟩ := offers_true offer offered inKind whole
      exact harmless l passed inRole (same ▸ whole)
    have shows : a.Shows fun k c => k = .prop → c.condition ≠ "true" :=
      answers_show (Tables.ofSource_keeps _ source options) brought a given
    obtain ⟨request,k,e,demanding,rfl⟩ := shows.made i written
    obtain ⟨inKind,shown⟩ := Request.make_true verifies vacuous
    exact demanding inKind shown

-- Nothing can be seen in these but a placeholder and a doubled dollar; the blanks
-- are not ASCII.
def wideAmount : Constraint := {condition := "\u3000$_self",summary := "an amount",interfaceType := some "int64_t"}
def dollarBlock : Constraint := {condition := "$$\u2003",summary := "a block"}
def anyAmount : Constraint := {condition := "true",summary := "any amount",interfaceType := some "int64_t"}

def padOperation : Operation := {
  name := "PadOp"
  properties := [⟨"amount",wideAmount⟩,⟨"any",anyAmount⟩]
  successors := [⟨"next",dollarBlock⟩]}

def padCalls : List Call := [.collect [padOperation],.emitVerifiers ({limit := some 7} : Capacity).sink 0]

def matchedPadCalls : List Call := padCalls ++ [.emitMatchers [⟨.prop,anyAmount⟩] ({} : Capacity).sink 0]

theorem written_tests_inked_pad :
    (∃ a ∈ answers (Tables.ofSource "Pad.td" {}) padCalls,
      (∃ i ∈ a.row, i.slots.condition = "$\u2003" ∧ i.Tests "$\u2003") ∧
      ∃ i ∈ a.row, i.template = .verifier .prop ∧ i.slots.condition = "\u3000prop" ∧ i.slots.condition ≠ "true") ∧
    (∀ l, Passed padCalls l → l.role = .prop → l.constraint.condition ≠ "true") ∧
    Passed matchedPadCalls ⟨.prop,anyAmount⟩ ∧
    ∃ i ∈ (session "Pad.td" {} matchedPadCalls).verifiers,
      i.template = .verifier .prop ∧ i.slots.condition = "true" := by
  obtain ⟨inked,varied,_⟩ := written_tests_inked "Pad.td" {} padCalls
  obtain ⟨_,_,vacuous⟩ := written_tests_inked "Pad.td" {} matchedPadCalls
  have harmless : ∀ l, Passed padCalls l → l.role = .prop → l.constraint.condition ≠ "true" := by
    rintro l ⟨leaves,_,sink,s,asked,_⟩
    simp [padCalls] at asked
  have passed : Passed matchedPadCalls ⟨.prop,anyAmount⟩ :=
    ⟨_,_,({} : Capacity).sink,0,by simp [matchedPadCalls],List.mem_singleton.mpr rfl⟩
  have given : (session "Pad.td" {} [.collect [padOperation]]).answer ({limit := some 7} : Capacity).sink 0 .verifiers ∈
      answers (Tables.ofSource "Pad.td" {}) padCalls := List.mem_singleton.mpr rfl
  have offered : [Call.collect [padOperation]].flatMap Call.offers =
      [(.prop,wideAmount),(.successor,dollarBlock)] := by decide
  have block : (⟨dollarBlock,"__mlir_ods_local_successor_constraint_Pad1"⟩ : Entry) ∈
      ((session "Pad.td" {} [.collect [padOperation]]).registry .successor).entries := by
    rw [session_entries,offered]
    decide
  have amount : (⟨wideAmount,"__mlir_ods_local_prop_constraint_Pad1"⟩ : Entry) ∈
      ((session "Pad.td" {} [.collect [padOperation]]).registry .prop).entries := by
    rw [session_entries,offered]
    decide
  have shown : (dollarBlock.verifierText .successor).text = "$\u2003" := by decide
  refine ⟨⟨_,given,⟨_,Tables.verifier_written block,shown,?_⟩,_,Tables.verifier_written amount,rfl,by decide,?_⟩,
    harmless,passed,vacuous _ passed rfl rfl⟩
  · rw [← shown]
    exact ((inked _ given).2 _ (Tables.verifier_written block)).1
  · exact varied harmless _ given _ (Tables.verifier_written amount) rfl

end SharedVerifiers
