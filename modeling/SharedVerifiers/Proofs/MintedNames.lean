import Std.Data.String.ToNat
import SharedVerifiers.Naming
namespace SharedVerifiers

theorem Kind.name_split {left right : Kind} {x y : String} (same : left.name ++ x = right.name ++ y) :
    left = right ∧ x = y := by
  have chars := congrArg String.toList same
  rw [String.toList_append,String.toList_append] at chars
  have one : left = right := by
    cases left <;> cases right <;> first | rfl | (simp [Kind.name] at chars)
  subst one
  exact ⟨rfl,String.toList_inj.mp (List.append_cancel_left chars)⟩

namespace UnitNames

-- Under one lead only the kind and what the label and the ordinal spell
-- together tell two names apart.
theorem mint_exact (lead one two : String) (left right : Kind) (n m : Nat) :
    (⟨lead,one⟩ : UnitNames).mint left n = (⟨lead,two⟩ : UnitNames).mint right m ↔
      left = right ∧ one ++ toString n = two ++ toString m := by
  unfold mint
  simp only [String.append_assoc,String.append_right_inj]
  constructor
  · intro same
    obtain ⟨kind,rest⟩ := Kind.name_split same
    exact ⟨kind,(String.append_right_inj _).mp rest⟩
  · rintro ⟨rfl,rest⟩
    rw [rest]

theorem mint_injective (names : UnitNames) {left right : Kind} {n m : Nat}
    (same : names.mint left n = names.mint right m) : left = right ∧ n = m := by
  obtain ⟨kind,rest⟩ := (mint_exact names.lead names.label names.label left right n m).mp same
  exact ⟨kind,Nat.repr_injective ((String.append_right_inj _).mp rest)⟩

end UnitNames

structure DecimalDigits (d : String) : Prop where
  nonempty : d ≠ ""
  digits : ∀ c ∈ d.toList, c.isDigit = true

theorem numeral_digits (n : Nat) : ∀ c ∈ (toString n).toList, c.isDigit = true := by
  intro c member
  rw [Nat.toString_eq_repr,Nat.toList_repr] at member
  exact Nat.isDigit_of_mem_toDigits (by decide) (by decide) member

-- The label `two` goes on behind `one` with digits, and the numeral of `n`
-- begins with just these.
def DigitsMoved (one : String) (n : Nat) (two : String) (m : Nat) : Prop :=
  ∃ d, DecimalDigits d ∧ two = one ++ d ∧ toString n = d ++ toString m

theorem DigitsMoved.spells {one two : String} {n m : Nat} (moved : DigitsMoved one n two m) :
    one ++ toString n = two ++ toString m := by
  obtain ⟨d,_,rfl,numeral⟩ := moved
  rw [numeral,String.append_assoc]

theorem spelled_longer {one two : String} {n m : Nat} {more : List Char} (label : two.toList = one.toList ++ more)
    (numeral : (toString n).toList = more ++ (toString m).toList) : (one = two ∧ n = m) ∨ DigitsMoved one n two m := by
  cases more with
  | nil =>
    rw [List.append_nil] at label
    rw [List.nil_append] at numeral
    exact .inl ⟨String.toList_inj.mp label.symm,Nat.repr_injective (String.toList_inj.mp numeral)⟩
  | cons c rest =>
    refine .inr ⟨String.ofList (c :: rest),⟨?_,?_⟩,?_,?_⟩
    · intro empty
      simpa using congrArg String.toList empty
    · -- What the longer label has more stands in a numeral.
      intro digit member
      rw [String.toList_ofList] at member
      refine numeral_digits n digit ?_
      rw [numeral]
      exact List.mem_append_left _ member
    · rw [← String.toList_inj,label,String.toList_append,String.toList_ofList]
    · rw [← String.toList_inj,numeral,String.toList_append,String.toList_ofList]

theorem spelled_exact (one two : String) (n m : Nat) :
    one ++ toString n = two ++ toString m ↔
      (one = two ∧ n = m) ∨ DigitsMoved one n two m ∨ DigitsMoved two m one n := by
  constructor
  · intro same
    have chars := congrArg String.toList same
    rw [String.toList_append,String.toList_append] at chars
    rcases List.append_eq_append_iff.mp chars with ⟨more,label,numeral⟩ | ⟨more,label,numeral⟩
    · rcases spelled_longer label numeral with equal | moved
      · exact .inl equal
      · exact .inr (.inl moved)
    · rcases spelled_longer label numeral with ⟨rfl,rfl⟩ | moved
      · exact .inl ⟨rfl,rfl⟩
      · exact .inr (.inr moved)
  · rintro (⟨rfl,rfl⟩ | moved | moved)
    · rfl
    · exact moved.spells
    · exact moved.spells.symm

-- Different labels are not enough to keep the names of two units apart. They
-- are if neither label goes on behind the other with digits only.
theorem names_collide_exact (lead one two : String) :
    (∀ left right n m, (⟨lead,one⟩ : UnitNames).mint left n = (⟨lead,two⟩ : UnitNames).mint right m ↔
      left = right ∧ ((one = two ∧ n = m) ∨ DigitsMoved one n two m ∨ DigitsMoved two m one n)) ∧
    (one ≠ two → (∀ d, DecimalDigits d → two ≠ one ++ d ∧ one ≠ two ++ d) →
      ∀ left right n m, (⟨lead,one⟩ : UnitNames).mint left n ≠ (⟨lead,two⟩ : UnitNames).mint right m) ∧
    ∀ left right n m, (⟨lead,one⟩ : UnitNames).mint left n = (⟨lead,one⟩ : UnitNames).mint right m →
      left = right ∧ n = m := by
  have collide : ∀ left right n m, (⟨lead,one⟩ : UnitNames).mint left n = (⟨lead,two⟩ : UnitNames).mint right m ↔
      left = right ∧ ((one = two ∧ n = m) ∨ DigitsMoved one n two m ∨ DigitsMoved two m one n) := by
    intro left right n m
    rw [UnitNames.mint_exact,spelled_exact]
  refine ⟨collide,?_,fun left right n m => UnitNames.mint_injective _⟩
  intro different apart left right n m same
  obtain ⟨_,⟨equal,_⟩ | ⟨d,digits,label,_⟩ | ⟨d,digits,label,_⟩⟩ := (collide left right n m).mp same
  · exact different equal
  · exact (apart d digits).1 label
  · exact (apart d digits).2 label

-- The eleventh name of one unit is the first of the other; units that are told
-- apart by letters share none.
theorem names_collide_exact_ops :
    (⟨"verify_","Ops"⟩ : UnitNames).mint .type 11 = (⟨"verify_","Ops1"⟩ : UnitNames).mint .type 1 ∧
    ∀ left right n m, (⟨"verify_","Ops"⟩ : UnitNames).mint left n ≠ (⟨"verify_","OpsA"⟩ : UnitNames).mint right m := by
  constructor
  · refine ((names_collide_exact "verify_" "Ops" "Ops1").1 .type .type 11 1).mpr ⟨rfl,.inr (.inl ⟨"1",?_,?_,?_⟩)⟩
    · refine ⟨by decide,?_⟩
      rw [show "1".toList = ['1'] by decide]
      exact List.forall_mem_singleton.mpr (by decide)
    · decide
    · decide
  · refine (names_collide_exact "verify_" "Ops" "OpsA").2.1 (by decide) ?_
    intro d digits
    constructor
    · intro longer
      have letter : d = "A" := (String.append_right_inj "Ops").mp longer.symm
      have digit := digits.digits 'A' (by rw [letter]; decide)
      exact absurd digit (by decide)
    · intro shorter
      have sizes := congrArg String.length shorter
      rw [String.length_append,show "Ops".length = 3 by decide,show "OpsA".length = 4 by decide] at sizes
      omega

end SharedVerifiers
