import SharedVerifiers.Hoisting
namespace SharedVerifiers
open Condition

namespace Condition

theorem mem_foldl_note (words seen : List String) (name : String) :
    name ∈ words.foldl note seen ↔ name ∈ seen ∨ name ∈ words := by
  induction words generalizing seen with
  | nil => simp
  | cons word rest ih =>
    rw [List.foldl_cons,ih,note]
    split
    · rename_i known
      constructor
      · rintro (old | late)
        · exact .inl old
        · exact .inr (List.mem_cons_of_mem _ late)
      · rintro (old | late)
        · exact .inl old
        · rcases List.mem_cons.mp late with rfl | late
          · exact .inl known
          · exact .inr late
    · simp [or_assoc]

theorem mem_firsts (words : List String) (name : String) : name ∈ firsts words ↔ name ∈ words := by
  simpa only [firsts,List.not_mem_nil,false_or] using mem_foldl_note words [] name

theorem resolve_isResolved (template : String) (b : Bindings) :
    (resolve template b).isResolved = true ↔
      ∀ name ∈ names (pieces template), (b.get? name).isSome = true := by
  unfold Resolution.isResolved resolve
  rw [List.isEmpty_iff,List.eq_nil_iff_forall_not_mem]
  simp only [mem_firsts,unboundNames,List.mem_filter,not_and,Bool.not_eq_true,Option.isNone_eq_false_iff]

theorem Resolution.resolved_exact (r : Resolution) (text : String) :
    r = ⟨text,[]⟩ ↔ r.isResolved = true ∧ r.text = text := by
  obtain ⟨written,free⟩ := r
  simp [Resolution.isResolved,and_comm]

end Condition

theorem verifierBindings_bound (k : Kind) (name : String) :
    ((verifierBindings k).get? name).isSome = true ↔ name = selfName ∨ name = opName := by
  unfold verifierBindings
  rw [Bindings.get_bind,Bindings.get_bind,Bindings.get_empty]
  split
  · rename_i isOp; simp [isOp]
  · split
    · rename_i isSelf; simp [isSelf]
    · rename_i notOp notSelf; simp [notOp,notSelf]

theorem matcherBindings_bound (k : Kind) (name : String) :
    ((matcherBindings k).get? name).isSome = true ↔
      name = builderName ∨ name = selfName ∨ name = opName := by
  unfold matcherBindings
  rw [Bindings.get_bind]
  split
  · rename_i isBuilder; simp [isBuilder]
  · rename_i notBuilder; simp [notBuilder,verifierBindings_bound]

namespace Constraint

def placeholders (c : Constraint) : List String := names (pieces c.condition)

def StandsAlone (c : Constraint) : Prop := ∀ name ∈ c.placeholders, name = selfName ∨ name = opName

instance (c : Constraint) : Decidable c.StandsAlone :=
  inferInstanceAs (Decidable (∀ name ∈ c.placeholders, name = selfName ∨ name = opName))

theorem verifierText_resolved (c : Constraint) (k : Kind) :
    (c.verifierText k).isResolved = true ↔ c.StandsAlone := by
  simp only [verifierText,resolve_isResolved,verifierBindings_bound,StandsAlone,placeholders]

theorem matchable_exact (c : Constraint) (k : Kind) :
    c.matchable k = true ↔ ∀ name ∈ c.placeholders, name = builderName ∨ name = selfName ∨ name = opName := by
  simp only [matchable,matcherText,resolve_isResolved,matcherBindings_bound,placeholders]

-- A matcher's condition may move into a verifier unless it speaks of the builder.
theorem standsAlone_of_matchable {c : Constraint} {k : Kind} (matched : c.matchable k = true) :
    c.StandsAlone ↔ builderName ∉ c.placeholders := by
  have bound := (c.matchable_exact k).mp matched
  constructor
  · intro alone used
    rcases alone _ used with same | same <;> exact absurd same (by decide)
  · intro unused name used
    rcases bound name used with rfl | known
    · exact absurd used unused
    · exact known

theorem hoistable_standsAlone {c : Constraint} {k : Kind} (hoisted : c.hoistable k = true) :
    c.StandsAlone := by
  unfold hoistable at hoisted
  exact (c.verifierText_resolved k).mp (Bool.and_eq_true_iff.mp hoisted).1

theorem matchable_of_hoistable {c : Constraint} {k : Kind} (hoisted : c.hoistable k = true) : c.matchable k = true := by
  refine (c.matchable_exact k).mpr ?_
  intro name used
  exact .inr (hoistable_standsAlone hoisted name used)

theorem hoistable_interface {c : Constraint} (hoisted : c.hoistable .prop = true) :
    c.interface.isSome = true := by
  simp only [hoistable,Bool.and_eq_true] at hoisted
  exact hoisted.2.1

theorem hoistable_exact (c : Constraint) {k : Kind} (other : k ≠ .prop) :
    c.hoistable k = true ↔ c.StandsAlone := by
  rw [← c.verifierText_resolved k]
  unfold hoistable
  cases k with
  | prop => exact absurd rfl other
  | _ => simp

namespace SameIdentity
variable {left right : Constraint}

theorem condition (same : SameIdentity left right) : left.condition = right.condition :=
  ((sameIdentity_exact _ _).mp same).1

theorem interface (same : SameIdentity left right) : left.interface = right.interface :=
  ((sameIdentity_exact _ _).mp same).2

theorem standsAlone (same : SameIdentity left right) : left.StandsAlone ↔ right.StandsAlone := by
  simp only [StandsAlone,placeholders,same.condition]

end SameIdentity

end Constraint

end SharedVerifiers
