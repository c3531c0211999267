import SharedVerifiers.Proofs.Contexts
namespace SharedVerifiers
open Condition

namespace Constraint

-- By the grammar of templates, so that a doubled dollar names nothing.
def Mentions (c : Constraint) (name : String) : Prop :=
  ∃ row, Normal row ∧ print row = c.condition.toList ∧ name ∈ names row

theorem mentions_exact (c : Constraint) (name : String) : c.Mentions name ↔ name ∈ c.placeholders := by
  constructor
  · rintro ⟨row,normal,printed,named⟩
    have read := scan_print normal
    rw [printed] at read
    rw [placeholders,pieces,read]
    exact named
  · intro named
    exact ⟨_,pieces_normal c.condition,pieces_print c.condition,named⟩

theorem mentions_all (c : Constraint) (allowed : String → Prop) :
    (∀ name, c.Mentions name → allowed name) ↔ ∀ name ∈ c.placeholders, allowed name := by
  simp only [mentions_exact]

theorem interface_given (c : Constraint) :
    c.interface.isSome = true ↔ ∃ type, c.interfaceType = some type ∧ type ≠ "" := by
  rw [Option.isSome_iff_exists]
  simp [interface,Option.filter_eq_some_iff]

end Constraint

namespace Condition

theorem fill_plain {row : List Piece} (visible : ∀ piece ∈ row, ∃ c, piece = .plain c) (b : Bindings) :
    fill row b = print row := by
  refine List.flatMap_congr ?_
  intro piece member
  obtain ⟨c,rfl⟩ := visible piece member
  rfl

-- All that stands for something else brings a character that `true` does not
-- have: a dollar, or an `o` out of what `$_self` and `$_op` come to.
theorem fill_foreign {piece : Piece} (other : ∀ c, piece ≠ .plain c) :
    ∃ c ∈ piece.fill (verifierBindings .prop), c ∉ "true".toList := by
  cases piece with
  | plain c => exact absurd rfl (other c)
  | doubled => exact ⟨'$',List.mem_singleton.mpr rfl,by decide⟩
  | lone => exact ⟨'$',List.mem_singleton.mpr rfl,by decide⟩
  | hole name =>
    simp only [Piece.fill,verifierBindings,Bindings.get_bind,Bindings.get_empty]
    by_cases isOp : String.ofList name = opName
    · exact ⟨'o',by simp [isOp,operationExpression],by decide⟩
    · by_cases isSelf : String.ofList name = selfName
      · have apart : selfName ≠ opName := by decide
        exact ⟨'o',by simp [apart,isSelf,Kind.name],by decide⟩
      · exact ⟨'$',by simp [isOp,isSelf],by decide⟩

theorem resolves_true (template : String) :
    (resolve template (verifierBindings .prop)).text = "true" ↔ template = "true" := by
  constructor
  · intro shown
    have filled : fill (pieces template) (verifierBindings .prop) = "true".toList := by
      rw [← shown,resolve,String.toList_ofList]
    have visible : ∀ piece ∈ pieces template, ∃ c, piece = .plain c := by
      intro piece member
      by_contra other
      obtain ⟨c,inside,foreign⟩ := fill_foreign (not_exists.mp other)
      exact foreign (filled ▸ List.mem_flatMap.mpr ⟨piece,member,inside⟩)
    rw [← String.toList_inj,← pieces_print,← fill_plain visible,filled]
  · rintro rfl
    decide

end Condition

theorem matcherBindings_extends (k : Kind) : (verifierBindings k).Extends (matcherBindings k) := by
  intro name value bound
  have known := (verifierBindings_bound k name).mp (Option.isSome_iff_exists.mpr ⟨value,bound⟩)
  have other : name ≠ builderName := by
    rintro rfl
    exact absurd known (by decide)
  rw [matcherBindings,Bindings.get_bind,if_neg other]
  exact bound

namespace Constraint

theorem hoistable_rules (c : Constraint) (k : Kind) :
    c.hoistable k = true ↔
      c.StandsAlone ∧ (k = .prop → c.interface.isSome = true ∧ c.condition ≠ "true") := by
  by_cases prop : k = .prop
  · subst prop
    have vacuous : (c.verifierText .prop).text = "true" ↔ c.condition = "true" := resolves_true c.condition
    simp only [hoistable,Bool.and_eq_true,verifierText_resolved,decide_eq_true_eq,ne_eq,vacuous,forall_const]
  · rw [c.hoistable_exact prop]
    simp only [prop,false_implies,and_true]

theorem matcherText_hoisted {c : Constraint} {k : Kind} (hoisted : c.hoistable k = true) :
    c.matcherText k = c.verifierText k :=
  resolve_extends ((c.verifierText_resolved k).mpr (hoistable_standsAlone hoisted)) (matcherBindings_extends k)

-- The rule is put to the text that a condition comes to, but what it asks for
-- can be read off the condition as it is written.
theorem hoisting_exact (c : Constraint) :
    (∀ k, c.hoistable k = true ↔
      (∀ name, c.Mentions name → name = selfName ∨ name = opName) ∧
      (k = .prop → (∃ type, c.interfaceType = some type ∧ type ≠ "") ∧ c.condition ≠ "true")) ∧
    (∀ template, (resolve template (verifierBindings .prop)).text = "true" ↔ template = "true") ∧
    (∀ k, c.matchable k = true ↔
      ∀ name, c.Mentions name → name = builderName ∨ name = selfName ∨ name = opName) ∧
    (∀ k other, c.matchable k = c.matchable other) ∧
    ∀ k, c.hoistable k = true → c.matchable k = true ∧ ∃ text,
      c.verifierText k = ⟨text,[]⟩ ∧ c.matcherText k = ⟨text,[]⟩ ∧
      ∀ e : Entry, SameIdentity e.constraint c →
        (e.verifier k).slots.condition = text ∧ (e.matcher k).slots.condition = text := by
  refine ⟨?_,resolves_true,?_,?_,?_⟩
  · intro k
    rw [hoistable_rules,mentions_all,interface_given]
    rfl
  · intro k
    rw [matchable_exact,mentions_all]
  · intro k other
    rw [Bool.eq_iff_iff,matchable_exact,matchable_exact]
  · intro k hoisted
    have resolved : c.verifierText k = ⟨(c.verifierText k).text,[]⟩ :=
      (Resolution.resolved_exact _ _).mpr ⟨(c.verifierText_resolved k).mpr (hoistable_standsAlone hoisted),rfl⟩
    have matched := matcherText_hoisted hoisted
    refine ⟨matchable_of_hoistable hoisted,_,resolved,matched.trans resolved,?_⟩
    intro e same
    have written : (e.verifier k).slots.condition = (c.verifierText k).text := by
      rw [e.verifier_condition,verifierText,verifierText,same.condition]
    have matcher : (e.matcher k).slots.condition = (c.matcherText k).text := by
      rw [e.matcher_condition,matcherText,matcherText,same.condition]
    exact ⟨written,matcher.trans (congrArg Resolution.text matched)⟩

def alignment : Constraint :=
  {condition := "$_self > 0 && $_op.cost$$()",summary := "positive alignment",interfaceType := some "int64_t"}
def alignmentEntry : Entry := ⟨{alignment with summary := "positive"},"__mlir_ods_local_prop_constraint_Ops1"⟩

theorem hoisting_exact_alignment :
    alignment.hoistable .prop = true ∧ alignment.matchable .prop = true ∧
    alignment.verifierText .prop = alignment.matcherText .prop ∧
    SameIdentity alignmentEntry.constraint alignment ∧
    (alignmentEntry.verifier .prop).slots.condition = (alignment.matcherText .prop).text ∧
    ¬ ∃ name, alignment.Mentions name ∧ name ≠ selfName ∧ name ≠ opName := by
  have hoisted : alignment.hoistable .prop = true := by decide
  obtain ⟨rule,_,_,_,written⟩ := hoisting_exact alignment
  obtain ⟨matched,text,verifier,matcher,entries⟩ := written .prop hoisted
  refine ⟨hoisted,matched,verifier.trans matcher.symm,rfl,?_,?_⟩
  · rw [matcher]
    exact (entries alignmentEntry rfl).1
  · rintro ⟨name,used,notSelf,notOp⟩
    exact ((rule .prop).mp hoisted).1 name used |>.elim notSelf notOp

end Constraint

end SharedVerifiers
