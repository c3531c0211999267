import Mathlib.Logic.Relation
import SharedVerifiers.Naming
namespace SharedVerifiers.Label

theorem bytes_injective {left right : String} (same : Text.bytes left = Text.bytes right) : left = right := by
  have encoded := congrArg List.toByteArray same
  change left.toList.utf8Encode = right.toList.utf8Encode at encoded
  rwa [← String.toByteArray_ofList,← String.toByteArray_ofList,String.toByteArray_inj,String.ofList_toList,
    String.ofList_toList] at encoded

def base (extension source : String) : String :=
  String.ofList (dropExtension extension.toList (baseName source.toList))

def encodeBytes (bytes : List UInt8) : List Char := bytes.flatMap encodeByte

theorem unitLabel_base (source tag extension : String) :
    unitLabel source tag extension = tag ++ String.ofList (encodeBytes (Text.bytes (base extension source))) := by
  simp only [unitLabel,base,encode,encodeBytes,Text.bytes,String.toList_ofList]

theorem unitLabel_same (one two tag extension : String) :
    unitLabel one tag extension = unitLabel two tag extension ↔
      encodeBytes (Text.bytes (base extension one)) = encodeBytes (Text.bytes (base extension two)) := by
  rw [unitLabel_base,unitLabel_base,String.append_right_inj]
  exact ⟨fun same => String.ofList_injective same,congrArg String.ofList⟩

def byteOf (c : Char) : UInt8 := UInt8.ofNat c.toNat

theorem byteOf_char (b : UInt8) : byteOf (Char.ofNat b.toNat) = b := by
  have small := b.toNat_lt
  have valid : b.toNat.isValidChar := .inl (by omega)
  have char : (Char.ofNat b.toNat).toNat = b.toNat := by
    rw [Char.ofNat,dif_pos valid]
    rfl
  rw [byteOf,char,UInt8.ofNat_toNat]

theorem char_injective {b c : UInt8} (same : Char.ofNat b.toNat = Char.ofNat c.toNat) : b = c := by
  rw [← byteOf_char b,← byteOf_char c,same]

theorem digit_named : ∀ n < 16, isNameByte (byteOf (Text.hexDigitUpper n)) = true ∧
    Char.ofNat (byteOf (Text.hexDigitUpper n)).toNat = Text.hexDigitUpper n := by
  decide

theorem digit_injective : ∀ n < 16, ∀ m < 16, Text.hexDigitUpper n = Text.hexDigitUpper m → n = m := by
  decide

theorem hexUpper_injective {b c : UInt8} (same : Text.hexUpper b = Text.hexUpper c) : b = c := by
  have smallB := b.toNat_lt
  have smallC := c.toNat_lt
  obtain ⟨high,rest⟩ := List.cons.inj same
  have low := (List.cons.inj rest).1
  have quotient := digit_injective _ (by omega) _ (by omega) high
  have remainder := digit_injective _ (by omega) _ (by omega) low
  exact UInt8.toNat_inj.mp (by omega)

section
variable {b : UInt8}

theorem encodeBytes_named (named : isNameByte b = true) (rest : List UInt8) :
    encodeBytes (b :: rest) = Char.ofNat b.toNat :: encodeBytes rest := by
  simp [encodeBytes,encodeByte,named]

theorem encodeBytes_replaced (replaced : isNameByte b = false) (rest : List UInt8) :
    encodeBytes (b :: rest) = Text.hexUpper b ++ encodeBytes rest := by
  simp [encodeBytes,encodeByte,replaced]

theorem encodeBytes_append (front back : List UInt8) :
    encodeBytes (front ++ back) = encodeBytes front ++ encodeBytes back :=
  List.flatMap_append

theorem encodeBytes_digit {n : Nat} (small : n < 16) (rest : List UInt8) :
    encodeBytes (byteOf (Text.hexDigitUpper n) :: rest) = Text.hexDigitUpper n :: encodeBytes rest := by
  obtain ⟨named,char⟩ := digit_named n small
  rw [encodeBytes_named named,char]

theorem encodeBytes_hex (b : UInt8) (rest : List UInt8) :
    encodeBytes ((Text.hexUpper b).map byteOf ++ rest) = Text.hexUpper b ++ encodeBytes rest := by
  have small := b.toNat_lt
  have high : b.toNat / 16 < 16 := by omega
  have low : b.toNat % 16 < 16 := by omega
  change encodeBytes (byteOf _ :: byteOf _ :: rest) = _
  rw [encodeBytes_digit high,encodeBytes_digit low]
  rfl

theorem encodeBytes_cons_ne (b : UInt8) (rest : List UInt8) : encodeBytes (b :: rest) ≠ [] := by
  cases named : isNameByte b with
  | true => simp [encodeBytes_named named]
  | false => simp [encodeBytes_replaced named,Text.hexUpper]

end

inductive SpellsOut : List UInt8 → List UInt8 → Prop where
  | byte (front back : List UInt8) {b : UInt8} (replaced : isNameByte b = false) :
      SpellsOut (front ++ b :: back) (front ++ ((Text.hexUpper b).map byteOf ++ back))

theorem SpellsOut.encoded {x y : List UInt8} (step : SpellsOut x y) : encodeBytes x = encodeBytes y := by
  cases step with
  | byte front back replaced =>
    rw [encodeBytes_append,encodeBytes_append,encodeBytes_replaced replaced,encodeBytes_hex]

theorem spelled_out (front x : List UInt8) :
    Relation.EqvGen SpellsOut (front ++ x) (front ++ (encodeBytes x).map byteOf) := by
  induction x generalizing front with
  | nil => exact .refl _
  | cons b rest ih =>
    cases named : isNameByte b with
    | true =>
      rw [encodeBytes_named named,List.map_cons,byteOf_char]
      simpa using ih (front ++ [b])
    | false =>
      have step : SpellsOut (front ++ b :: rest) (front ++ ((Text.hexUpper b).map byteOf ++ rest)) :=
        .byte front rest named
      rw [encodeBytes_replaced named,List.map_append]
      refine .trans _ _ _ (.rel _ _ step) ?_
      simpa using ih (front ++ (Text.hexUpper b).map byteOf)

theorem encodeBytes_exact (x y : List UInt8) :
    encodeBytes x = encodeBytes y ↔ Relation.EqvGen SpellsOut x y := by
  constructor
  · intro same
    have left : Relation.EqvGen SpellsOut x ((encodeBytes x).map byteOf) := spelled_out [] x
    have right : Relation.EqvGen SpellsOut y ((encodeBytes y).map byteOf) := spelled_out [] y
    rw [same] at left
    exact .trans _ _ _ left (.symm _ _ right)
  · intro related
    induction related with
    | rel x y step => exact step.encoded
    | refl x => rfl
    | symm x y _ ih => exact ih.symm
    | trans x y z _ _ first second => exact first.trans second

def Plain (x : List UInt8) : Prop := ∀ b ∈ x, isNameByte b = true

theorem plain_written {x : List UInt8} (plain : Plain x) : (encodeBytes x).map byteOf = x := by
  induction x with
  | nil => rfl
  | cons b rest ih =>
    have tail : Plain rest := fun c member => plain c (List.mem_cons_of_mem _ member)
    rw [encodeBytes_named (plain b List.mem_cons_self),List.map_cons,byteOf_char,ih tail]

theorem plain_injective {x y : List UInt8} (left : Plain x) (right : Plain y)
    (same : encodeBytes x = encodeBytes y) : x = y := by
  rw [← plain_written left,← plain_written right,same]

-- From no byte that stands for itself does the label go on like the digits of
-- one that does not.
def Unmistakable : List UInt8 → Prop
  | [] => True
  | b :: rest => (isNameByte b = true → ∀ c, isNameByte c = false → ¬ Text.hexUpper c <+: encodeBytes (b :: rest)) ∧
      Unmistakable rest

theorem unmistakable_injective {x y : List UInt8} (left : Unmistakable x) (right : Unmistakable y)
    (same : encodeBytes x = encodeBytes y) : x = y := by
  induction x generalizing y with
  | nil =>
    cases y with
    | nil => rfl
    | cons c others => exact absurd same.symm (encodeBytes_cons_ne c others)
  | cons b rest ih =>
    cases y with
    | nil => exact absurd same (encodeBytes_cons_ne b rest)
    | cons c others =>
      cases namedB : isNameByte b with
      | true =>
        cases namedC : isNameByte c with
        | true =>
          rw [encodeBytes_named namedB,encodeBytes_named namedC] at same
          obtain ⟨first,behind⟩ := List.cons.inj same
          rw [char_injective first,ih left.2 right.2 behind]
        | false =>
          -- A byte that stands for itself would read like the other's first digit.
          refine absurd ?_ (left.1 namedB c namedC)
          rw [same,encodeBytes_replaced namedC]
          exact List.prefix_append _ _
      | false =>
        cases namedC : isNameByte c with
        | true =>
          refine absurd ?_ (right.1 namedC b namedB)
          rw [← same,encodeBytes_replaced namedB]
          exact List.prefix_append _ _
        | false =>
          rw [encodeBytes_replaced namedB,encodeBytes_replaced namedC] at same
          obtain ⟨first,behind⟩ := List.append_inj same rfl
          rw [hexUpper_injective first,ih left.2 right.2 behind]

theorem unmistakable_without_digits {x : List UInt8}
    (free : ∀ b ∈ x, isNameByte b = true → ∀ n < 16, b ≠ byteOf (Text.hexDigitUpper n)) : Unmistakable x := by
  induction x with
  | nil => trivial
  | cons b rest ih =>
    refine ⟨?_,ih fun c member => free c (List.mem_cons_of_mem _ member)⟩
    intro named c _ begins
    have small := c.toNat_lt
    rw [encodeBytes_named named] at begins
    have first : Text.hexDigitUpper (c.toNat / 16) = Char.ofNat b.toNat := (List.cons_prefix_cons.mp begins).1
    refine free b List.mem_cons_self named (c.toNat / 16) (by omega) ?_
    rw [first,byteOf_char]

-- A label is less than the name of a source file. It is the same for two names
-- just if each turns into the other by spelling bytes out and taking digits back.
theorem labels_coincide_exact (tag extension one two : String) :
    (unitLabel one tag extension = unitLabel two tag extension ↔
      Relation.EqvGen SpellsOut (Text.bytes (base extension one)) (Text.bytes (base extension two))) ∧
    (base extension one ≠ base extension two →
      (Plain (Text.bytes (base extension one)) ∧ Plain (Text.bytes (base extension two))) ∨
        (Unmistakable (Text.bytes (base extension one)) ∧ Unmistakable (Text.bytes (base extension two))) →
      unitLabel one tag extension ≠ unitLabel two tag extension) := by
  constructor
  · rw [unitLabel_same]
    exact encodeBytes_exact _ _
  · intro different apart same
    have written := (unitLabel_same one two tag extension).mp same
    rcases apart with ⟨left,right⟩ | ⟨left,right⟩
    · exact different (bytes_injective (plain_injective left right written))
    · exact different (bytes_injective (unmistakable_injective left right written))

theorem labels_coincide_exact_apart :
    base "td" "dialect/my-ops.td" ≠ base "td" "my_ops.td" ∧
    Unmistakable (Text.bytes (base "td" "dialect/my-ops.td")) ∧ Unmistakable (Text.bytes (base "td" "my_ops.td")) ∧
    unitLabel "dialect/my-ops.td" "" "td" ≠ unitLabel "my_ops.td" "" "td" := by
  have left : Unmistakable (Text.bytes (base "td" "dialect/my-ops.td")) := unmistakable_without_digits (by decide +kernel)
  have right : Unmistakable (Text.bytes (base "td" "my_ops.td")) := unmistakable_without_digits (by decide +kernel)
  have different : base "td" "dialect/my-ops.td" ≠ base "td" "my_ops.td" := by decide
  exact ⟨different,left,right,(labels_coincide_exact "" "td" _ _).2 different (.inr ⟨left,right⟩)⟩

-- The digits of a replaced dash may as well have been in the name.
theorem labels_of_different_names_coincide : ¬ ∀ tag extension one two : String,
    base extension one ≠ base extension two → unitLabel one tag extension ≠ unitLabel two tag extension := by
  intro apart
  exact apart "" "td" "a-b.td" "a2Db.td" (by decide) (by decide)

end SharedVerifiers.Label
