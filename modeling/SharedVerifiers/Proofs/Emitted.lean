import SharedVerifiers.Proofs.Contexts
import SharedVerifiers.Proofs.Metering
import SharedVerifiers.Proofs.Rendering
import SharedVerifiers.Proofs.Session
namespace SharedVerifiers
open Condition

-- There is a text for the row, and whatever text there is for it has been taken.
structure Emission.Wrote {σ : Type} (e : Emission σ) (row : List Instance) : Prop where
  written : ∃ text, Instance.RowWrites row text
  taken : ∀ text, Instance.RowWrites row text → e.taken = Text.bytes text
  reported : ∃ report, e.outcome = .ok report

theorem Tables.counts_listed (t : Tables) {kinds : List Kind} (emitted : kinds = Kind.all ∨ kinds = matcherKinds) :
    (t.counts kinds).toList = kinds.map fun k => (k,(t.registry k).size) := by
  rcases emitted with rfl | rfl <;> rfl

theorem Tables.emit_accepted {σ : Type} (t : Tables) (entryPoint : EntryPoint) (row : List Instance)
    (counts : Counts) {sink : Sink σ} (accepting : sink.Accepting) (s : σ) :
    (t.emit entryPoint row counts sink s).taken = row.flatMap (fun i => Text.bytes i.text) ∧
      (t.emit entryPoint row counts sink s).outcome = .ok {
        label := t.label
        entryPoint := entryPoint
        instances := counts
        bytes := (row.flatMap fun i => Text.bytes i.text).length
        outputHash := Report.hashOf (row.flatMap fun i => Text.bytes i.text)} := by
  obtain ⟨arrived,taken⟩ := accepting.deliver s (row.map fun i => Text.bytes i.text)
  rw [← List.flatMap_def] at taken
  rw [t.emit_taken]
  simp only [arrived,taken]
  exact ⟨trivial,trivial⟩

theorem Tables.emit_wrote {σ : Type} (t : Tables) (entryPoint : EntryPoint) (row : List Instance)
    (counts : Counts) {sink : Sink σ} (accepting : sink.Accepting) (s : σ) :
    (t.emit entryPoint row counts sink s).Wrote row := by
  obtain ⟨taken,outcome⟩ := t.emit_accepted entryPoint row counts accepting s
  refine ⟨⟨_,(Instance.rowWrites_exact row _).mpr rfl⟩,?_,_,outcome⟩
  intro text written
  rw [taken,(Instance.rowWrites_exact row text).mp written,Text.bytes_join,List.flatMap_map]

theorem Instance.only_named {row : List Instance} (distinct : (row.map fun i => i.slots.name).Nodup)
    {i : Instance} (member : i ∈ row) : (row.filter fun j => j.slots.name = i.slots.name) = [i] := by
  induction row with
  | nil => cases member
  | cons head rest ih =>
    obtain ⟨fresh,distinct⟩ := List.nodup_cons.mp distinct
    rcases List.mem_cons.mp member with rfl | later
    · have others : (rest.filter fun j => j.slots.name = i.slots.name) = [] := by
        refine List.filter_eq_nil_iff.mpr ?_
        intro j present same
        exact fresh (List.mem_map.mpr ⟨j,present,by simpa using same⟩)
      simp [others]
    · have different : head.slots.name ≠ i.slots.name := by
        intro same
        exact fresh (List.mem_map.mpr ⟨i,later,same.symm⟩)
      rw [List.filter_cons_of_neg (by simpa using different),ih distinct later]

theorem session_instance_only {source : String} {options : Options} {calls : List Call} {kinds : List Kind}
    (distinct : kinds.Nodup) (make : Kind → Entry → Instance) (named : ∀ k e, (make k e).slots.name = e.name)
    {k : Kind} {e : Entry} (wanted : k ∈ kinds) (member : e ∈ ((session source options calls).registry k).entries) :
    ((kinds.flatMap fun k => ((session source options calls).registry k).entries.map (make k)).filter
      fun i => i.slots.name = e.name) = [make k e] := by
  have listed : make k e ∈ kinds.flatMap fun k => ((session source options calls).registry k).entries.map (make k) :=
    List.mem_flatMap.mpr ⟨k,wanted,List.mem_map_of_mem member⟩
  rw [← named k e]
  refine Instance.only_named ?_ listed
  have names := session_names_distinct source options calls kinds distinct
  simpa only [List.map_flatMap,List.map_map,Function.comp_def,named] using names

theorem session_verifier_only {source : String} {options : Options} {calls : List Call} {k : Kind} {e : Entry}
    (member : e ∈ ((session source options calls).registry k).entries) :
    ((session source options calls).verifiers.filter fun i => i.slots.name = e.name) = [e.verifier k] := by
  rw [Tables.verifiers_each]
  exact session_instance_only (by decide) (fun k e => e.verifier k) (fun _ _ => rfl) k.mem_all member

theorem session_matcher_only {source : String} {options : Options} {calls : List Call} {k : Kind} {e : Entry}
    (matched : k ∈ matcherKinds) (member : e ∈ ((session source options calls).registry k).entries) :
    ((session source options calls).matchers.filter fun i => i.slots.name = e.name) = [e.matcher k] := by
  rw [Tables.matchers_each]
  exact session_instance_only (by decide) (fun k e => e.matcher k) (fun _ _ => rfl) matched member

def VerifiedBy (row : List Instance) (name : String) (k : Kind) (c : Constraint) : Prop :=
  ∃ i, (row.filter fun j => j.slots.name = name) = [i] ∧ i.template = .verifier k ∧
    resolve c.condition ((Bindings.empty.bind "_self" k.name).bind "_op" "*op") = ⟨i.slots.condition,[]⟩ ∧
    (k = .prop → c.interface = some i.slots.param)

def Kind.parameter : Kind → Option String → String × Bool
  | .type,_ => ("::mlir::Type type",false)
  | .attr,_ => ("::mlir::Attribute attr",false)
  | _,some interface => (interface ++ " prop",false)
  | _,none => ("T prop",true)

def MatchedBy (row : List Instance) (name : String) (l : Leaf) : Prop :=
  ∃ i, (row.filter fun j => j.slots.name = name) = [i] ∧ i.template = .matcher ∧
    resolve l.constraint.condition
      (((Bindings.empty.bind "_self" l.kind.name).bind "_op" "*op").bind "_builder" "rewriter") =
        ⟨i.slots.condition,[]⟩ ∧
    (i.slots.param,i.slots.generic) = l.kind.parameter l.constraint.interface

theorem Entry.verifier_same {e : Entry} {k : Kind} {c : Constraint}
    (same : Constraint.SameIdentity e.constraint c) (hoisted : c.hoistable k = true) :
    c.verifierText k = ⟨(e.verifier k).slots.condition,[]⟩ ∧
      (k = .prop → c.interface = some (e.verifier k).slots.param) := by
  constructor
  · refine (Resolution.resolved_exact _ _).mpr ⟨?_,?_⟩
    · exact (c.verifierText_resolved k).mpr (Constraint.hoistable_standsAlone hoisted)
    · rw [e.verifier_condition,Constraint.verifierText,Constraint.verifierText,same.condition]
  · rintro rfl
    obtain ⟨interface,given⟩ := Option.isSome_iff_exists.mp (Constraint.hoistable_interface hoisted)
    simp [Entry.verifier,Entry.verifierIn,Entry.slots,same.interface,given]

theorem Entry.matcher_parameter (e : Entry) (k : Kind) :
    ((e.matcher k).slots.param,(e.matcher k).slots.generic) = k.parameter e.constraint.interface := by
  simp only [matcher,matcherIn,slots,matcherParam,Kind.parameter]
  cases k <;> cases e.constraint.interface <;> rfl

theorem Entry.matcher_same {e : Entry} {l : Leaf} (same : Constraint.SameIdentity e.constraint l.constraint)
    (matched : l.constraint.matchable l.kind = true) :
    l.constraint.matcherText l.kind = ⟨(e.matcher l.kind).slots.condition,[]⟩ ∧
      ((e.matcher l.kind).slots.param,(e.matcher l.kind).slots.generic) = l.kind.parameter l.constraint.interface := by
  constructor
  · refine (Resolution.resolved_exact _ _).mpr ⟨matched,?_⟩
    rw [e.matcher_condition,Constraint.matcherText,Constraint.matcherText,same.condition]
  · rw [e.matcher_parameter,same.interface]

theorem session_offer_found (source : String) (options : Options) {calls : List Call} {k : Kind} {c : Constraint}
    (offered : (k,c) ∈ calls.flatMap Call.offers) :
    ∃ name, (session source options calls).lookup k c = .found name :=
  (Tables.lookup_known _ k c).mpr ((session_known source options calls k c.identity).mpr ⟨c,offered,rfl⟩)

-- A call site that asks for a function gets one that tests exactly what the site
-- wanted tested, although another site may have been the first to want it. What
-- the summary says is not part of this: it is that of the first site.
theorem sharing_sound (source : String) (options : Options) (calls : List Call) {σ : Type} {sink : Sink σ}
    (accepting : sink.Accepting) (s : σ) :
    (∀ k c, Collected calls k c → c.hasPredicate = true → c.hoistable k = true →
      ∃ name, (session source options calls).lookup k c = .found name ∧
        VerifiedBy (session source options calls).verifiers name k c) ∧
    ((session source options calls).emitVerifiers sink s).Wrote (session source options calls).verifiers ∧
    (∀ l, Passed calls l → l.constraint.hasPredicate = true → l.constraint.matchable l.kind = true →
      ∃ name, (session source options calls).lookup l.kind l.constraint = .found name ∧
        ∀ more, ((session source options calls).emitMatchers more sink s).1.lookup l.kind l.constraint = .found name ∧
          MatchedBy ((session source options calls).emitMatchers more sink s).1.matchers name l) ∧
    ∀ more, ((session source options calls).emitMatchers more sink s).2.Wrote
      ((session source options calls).emitMatchers more sink s).1.matchers := by
  refine ⟨?_,Tables.emit_wrote _ _ _ _ accepting s,?_,fun more => Tables.emit_wrote _ _ _ _ accepting s⟩
  · intro k c collected tested hoisted
    have offered := (mem_session_offers calls k c).mpr (.inl ⟨collected,tested,hoisted⟩)
    obtain ⟨name,found⟩ := session_offer_found source options offered
    obtain ⟨e,member,same,rfl⟩ := Tables.lookup_entry found
    exact ⟨_,found,e.verifier k,session_verifier_only member,rfl,Entry.verifier_same same hoisted⟩
  · intro l passed tested matched
    have offered := (mem_session_offers calls l.kind l.constraint).mpr (.inr ⟨⟨l,passed,rfl,rfl⟩,tested,matched⟩)
    obtain ⟨name,found⟩ := session_offer_found source options offered
    refine ⟨name,found,fun more => ?_⟩
    have later : ((session source options calls).emitMatchers more sink s).1 =
        session source options (calls ++ [.emitMatchers more sink s]) :=
      (session_snoc source options calls (.emitMatchers more sink s)).symm
    have kept : (session source options (calls ++ [.emitMatchers more sink s])).lookup l.kind l.constraint =
        .found name := by
      rw [session_snoc]
      exact Tables.lookup_grows found (Leaf.offers more)
    obtain ⟨e,member,same,rfl⟩ := Tables.lookup_entry kept
    have matching : l.kind ∈ matcherKinds := by
      cases role : l.role <;> simp [Leaf.kind,role,Role.kind,matcherKinds]
    rw [later]
    exact ⟨kept,e.matcher l.kind,session_matcher_only matching member,rfl,Entry.matcher_same same matched⟩

def operandIndex (summary : String) : Constraint :=
  {condition := "$_self < $_op.getNumOperands()",summary := summary,interfaceType := some "int64_t"}

-- Two operations and a pattern want one test, each in words of its own, and the
-- sink of the pattern is full from the start.
def thriceWanted : List Call := [
  .collect [{name := "IndexOp",properties := [⟨"index",operandIndex "an index"⟩]}],
  .emitMatchers [⟨.prop,operandIndex "a position"⟩] ({limit := some 0} : Capacity).sink 0,
  .collect [{name := "SizeOp",properties := [⟨"size",operandIndex "a size"⟩]}]]

theorem sharing_sound_thrice :
    ({} : Capacity).sink.Accepting ∧
    (∃ name i, (session "Shared.td" {} thriceWanted).lookup .prop (operandIndex "a size") = .found name ∧
      ((session "Shared.td" {} thriceWanted).verifiers.filter fun j => j.slots.name = name) = [i] ∧
      i.template = .verifier .prop ∧ i.slots.condition = "prop < *op.getNumOperands()" ∧ i.slots.param = "int64_t") ∧
    ∃ name i, (session "Shared.td" {} thriceWanted).lookup .prop (operandIndex "a position") = .found name ∧
      (((session "Shared.td" {} thriceWanted).emitMatchers [] ({} : Capacity).sink 0).1.matchers.filter
        fun j => j.slots.name = name) = [i] ∧
      i.template = .matcher ∧ i.slots.condition = "prop < *op.getNumOperands()" ∧ i.slots.param = "int64_t prop" ∧
      i.slots.generic = false := by
  have accepting : ({} : Capacity).sink.Accepting := Capacity.unlimited_accepting _ (by decide) rfl rfl
  obtain ⟨verified,_,matched,_⟩ := sharing_sound "Shared.td" {} thriceWanted accepting 0
  have collected : Collected thriceWanted .prop (operandIndex "a size") := by
    refine ⟨[{name := "SizeOp",properties := [⟨"size",operandIndex "a size"⟩]}],by simp [thriceWanted],_,
      List.mem_singleton.mpr rfl,?_⟩
    exact .property (p := ⟨"size",operandIndex "a size"⟩) (List.mem_singleton.mpr rfl)
  have passed : Passed thriceWanted ⟨.prop,operandIndex "a position"⟩ :=
    ⟨_,_,({limit := some 0} : Capacity).sink,0,by simp [thriceWanted],List.mem_singleton.mpr rfl⟩
  refine ⟨accepting,?_,?_⟩
  · obtain ⟨name,found,i,only,template,resolved,typed⟩ := verified .prop _ collected (by decide) (by decide)
    have condition := congrArg Resolution.text resolved
    exact ⟨name,i,found,only,template,condition.symm.trans (by decide),(Option.some.inj (typed rfl)).symm⟩
  · obtain ⟨name,found,later⟩ := matched _ passed (by decide) (by decide)
    obtain ⟨i,only,template,resolved,parameter⟩ := (later []).2
    have condition := congrArg Resolution.text resolved
    exact ⟨name,i,found,only,template,condition.symm.trans (by decide),congrArg Prod.fst parameter,
      congrArg Prod.snd parameter⟩

end SharedVerifiers
