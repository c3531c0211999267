import SharedVerifiers.Proofs.Emitted
namespace SharedVerifiers
open Condition

-- The body of the verifier has no placeholder left, and a property's verifier
-- says which type it takes.
structure Entry.Lawful (e : Entry) (k : Kind) : Prop where
  resolved : resolve e.constraint.condition ((Bindings.empty.bind "_self" k.name).bind "_op" "*op") =
    ⟨(e.verifier k).slots.condition,[]⟩
  typed : k = .prop → (e.verifier k).slots.param ≠ ""

def Tables.VerifiersLawful (t : Tables) : Prop := ∀ k, ∀ e ∈ (t.registry k).entries, e.Lawful k

theorem Constraint.interface_nonempty {c : Constraint} {interface : String}
    (given : c.interface = some interface) : interface ≠ "" := by
  have kept := (Option.filter_eq_some_iff.mp given).2
  simpa using kept

theorem Entry.verifier_param (e : Entry) :
    (e.verifier .prop).slots.param ≠ "" ↔ e.constraint.interface.isSome = true := by
  change e.constraint.interface.getD "" ≠ "" ↔ _
  cases given : e.constraint.interface with
  | none => simp
  | some interface => simpa using Constraint.interface_nonempty given

theorem Entry.lawful_exact (e : Entry) (k : Kind) :
    e.Lawful k ↔ e.constraint.StandsAlone ∧ (k = .prop → e.constraint.interface.isSome = true) := by
  have resolved : resolve e.constraint.condition ((Bindings.empty.bind "_self" k.name).bind "_op" "*op") =
      ⟨(e.verifier k).slots.condition,[]⟩ ↔ e.constraint.StandsAlone := by
    change e.constraint.verifierText k = _ ↔ _
    rw [e.verifier_condition,Resolution.resolved_exact,Constraint.verifierText_resolved]
    exact and_iff_left rfl
  constructor
  · intro lawful
    refine ⟨resolved.mp lawful.resolved,?_⟩
    rintro rfl
    exact e.verifier_param.mp (lawful.typed rfl)
  · rintro ⟨alone,given⟩
    refine ⟨resolved.mpr alone,?_⟩
    rintro rfl
    exact e.verifier_param.mpr (given rfl)

theorem Constraint.hoistable_lawful {c : Constraint} {k : Kind} (hoisted : c.hoistable k = true) :
    c.StandsAlone ∧ (k = .prop → c.interface.isSome = true) := by
  refine ⟨hoistable_standsAlone hoisted,?_⟩
  rintro rfl
  exact hoistable_interface hoisted

def Leaf.MatcherOnly (l : Leaf) : Prop :=
  builderName ∈ l.constraint.placeholders ∨ (l.role = .prop ∧ l.constraint.interface = none)

theorem Leaf.matcherOnly_exact {l : Leaf} (matched : l.constraint.matchable l.kind = true) :
    ¬ l.MatcherOnly ↔ l.constraint.StandsAlone ∧ (l.kind = .prop → l.constraint.interface.isSome = true) := by
  have typed : (l.kind = .prop → l.constraint.interface.isSome = true) ↔
      ¬ (l.role = .prop ∧ l.constraint.interface = none) := by
    obtain ⟨role,c⟩ := l
    cases role <;> cases c.interface <;> simp [Leaf.kind,Role.kind]
  rw [Constraint.standsAlone_of_matchable matched,typed]
  exact not_or

-- Verifiers and matchers come out of the same tables, but leaves enter them
-- under the rule for matchers. All verifiers are lawful exactly as long as no
-- leaf makes use of the difference.
theorem verifiers_lawful_exact (source : String) (options : Options) (calls : List Call) :
    (session source options calls).VerifiersLawful ↔
      ∀ l, Passed calls l → l.constraint.hasPredicate = true → l.constraint.matchable l.kind = true →
        ¬ l.MatcherOnly := by
  constructor
  · intro lawful l passed tested matched
    have offered := (mem_session_offers calls l.kind l.constraint).mpr (.inr ⟨⟨l,passed,rfl,rfl⟩,tested,matched⟩)
    obtain ⟨name,found⟩ := session_offer_found source options offered
    obtain ⟨e,member,same,_⟩ := Tables.lookup_entry found
    obtain ⟨alone,typed⟩ := (e.lawful_exact l.kind).mp (lawful l.kind e member)
    refine (Leaf.matcherOnly_exact matched).mpr ⟨same.standsAlone.mp alone,?_⟩
    simpa only [same.interface] using typed
  · intro harmless k e member
    refine (e.lawful_exact k).mpr ?_
    rcases (mem_session_offers calls k e.constraint).mp (session_entry_offered member) with
      ⟨_,_,hoisted⟩ | ⟨⟨l,passed,rfl,same⟩,tested,matched⟩
    · exact Constraint.hoistable_lawful hoisted
    · rw [← same] at tested matched ⊢
      exact (Leaf.matcherOnly_exact matched).mp (harmless l passed tested matched)

def builderLeaf : Leaf := ⟨.operand,{condition := "$_self == $_builder.getI1Type()",summary := "i1"}⟩
def untypedLeaf : Leaf := ⟨.prop,{condition := "$_self >= 0",summary := "not negative"}⟩

def matchersFirst : List Call := [.emitMatchers [builderLeaf,untypedLeaf] ({} : Capacity).sink 0]

-- One verifier has a placeholder in its body, the other takes a value of no type.
theorem verifiers_unlawful :
    (∃ e ∈ ((session "Ops.td" {} matchersFirst).registry .type).entries,
      (e.verifier .type).slots.condition = "type == $_builder.getI1Type()" ∧ ¬ e.Lawful .type) ∧
    ∃ e ∈ ((session "Ops.td" {} matchersFirst).registry .prop).entries,
      (e.verifier .prop).slots.param = "" ∧ ¬ e.Lawful .prop := by
  have types : Kind.type.select (matchersFirst.flatMap Call.offers) = [builderLeaf.constraint] := by decide
  have props : Kind.prop.select (matchersFirst.flatMap Call.offers) = [untypedLeaf.constraint] := by decide
  constructor
  · rw [session_entries,types]
    refine ⟨_,List.mem_singleton.mpr rfl,by decide,?_⟩
    rw [Entry.lawful_exact]
    exact fun lawful => absurd lawful.1 (by decide)
  · rw [session_entries,props]
    refine ⟨_,List.mem_singleton.mpr rfl,by decide,?_⟩
    exact fun lawful => lawful.typed rfl (by decide)

end SharedVerifiers
