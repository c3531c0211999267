import Mathlib.Data.List.Basic
import Mathlib.Data.List.TakeWhile
import SharedVerifiers.Condition
import SharedVerifiers.Proofs.Labels
import SharedVerifiers.Proofs.MintedNames
namespace SharedVerifiers
open Condition

namespace Label

def Bare (name : String) : Prop := ∀ c ∈ name.toList, isSeparator c = false

instance (name : String) : Decidable (Bare name) := List.decidableBAll _ name.toList

theorem baseName_bare {name : List Char} (bare : ∀ c ∈ name, isSeparator c = false) : baseName name = name := by
  have whole : name.reverse.takeWhile (fun c => !isSeparator c) = name.reverse := by
    apply List.takeWhile_eq_self_iff.mpr
    intro c member
    rw [bare c (List.mem_reverse.mp member)]
    rfl
  rw [baseName,whole,List.reverse_reverse]

-- Read from its end, a path is the same up to this separator, and there the
-- reading stops if it has not stopped before.
theorem baseName_behind (directory path : List Char) {separator : Char} (separates : isSeparator separator = true) :
    baseName (directory ++ separator :: path) = baseName path := by
  have stops : (separator :: directory.reverse).takeWhile (fun c => !isSeparator c) = [] := by simp [separates]
  rw [baseName,List.reverse_append,List.reverse_cons,List.append_assoc,List.singleton_append,List.takeWhile_append,
    stops,List.append_nil]
  split
  · rename_i whole
    have same := (List.takeWhile_prefix fun c => !isSeparator c).eq_of_length whole
    rw [baseName,same]
  · rfl

theorem dropExtension_once {extension : List Char} (given : extension ≠ []) (base : List Char) :
    dropExtension extension (base ++ '.' :: extension) = base := by
  have ends : ('.' :: extension).isSuffixOf (base ++ '.' :: extension) = true :=
    List.isSuffixOf_iff_suffix.mpr (List.suffix_append _ _)
  have short : (base ++ '.' :: extension).length - (extension.length + 1) = base.length := by simp
  rw [dropExtension,if_neg given,if_pos ends,short,List.take_left]

theorem dropExtension_kept {extension base : List Char} (kept : extension = [] ∨ ¬ '.' :: extension <:+ base) :
    dropExtension extension base = base := by
  unfold dropExtension
  rcases kept with none | other
  · rw [if_pos none]
  · have differs : ¬ ('.' :: extension).isSuffixOf base = true := fun ends => other (List.isSuffixOf_iff_suffix.mp ends)
    rw [if_neg differs,ite_self]

def digit (n : Nat) : Char := "0123456789ABCDEF".toList.getD n '0'

def spell (b : UInt8) : List Char :=
  if isNameChar (Char.ofNat b.toNat) then [Char.ofNat b.toNat] else [digit (b.toNat / 16),digit (b.toNat % 16)]

def spelled (name : String) : String := String.ofList ((Text.bytes name).flatMap spell)

theorem digit_exact : ∀ n < 16, Text.hexDigitUpper n = digit n ∧ isNameChar (digit n) = true := by decide

theorem isNameByte_char : ∀ n < 256, isNameByte (UInt8.ofNat n) = isNameChar (Char.ofNat n) := by decide +kernel

theorem encodeByte_spell (b : UInt8) : encodeByte b = spell b := by
  have small := b.toNat_lt
  have named : isNameByte b = isNameChar (Char.ofNat b.toNat) := by
    simpa using isNameByte_char b.toNat small
  have high := (digit_exact (b.toNat / 16) (by omega)).1
  have low := (digit_exact (b.toNat % 16) (by omega)).1
  rw [encodeByte,spell,named,Text.hexUpper,high,low]

theorem spell_chars (b : UInt8) : ∀ c ∈ spell b, isNameChar c = true := by
  have small := b.toNat_lt
  unfold spell
  split
  · rename_i named
    exact List.forall_mem_singleton.mpr named
  · have high := (digit_exact (b.toNat / 16) (by omega)).2
    have low := (digit_exact (b.toNat % 16) (by omega)).2
    simp [high,low]

theorem spelled_chars (name : String) : ∀ c ∈ (spelled name).toList, isNameChar c = true := by
  intro c member
  rw [spelled,String.toList_ofList] at member
  obtain ⟨b,_,written⟩ := List.mem_flatMap.mp member
  exact spell_chars b c written

theorem unitLabel_spelled (source tag extension : String) :
    unitLabel source tag extension = tag ++ spelled (base extension source) := by
  have bytewise : encodeBytes = fun bytes => bytes.flatMap spell := by
    funext bytes
    exact List.flatMap_congr fun b _ => encodeByte_spell b
  rw [unitLabel_base,bytewise,spelled]

theorem base_behind (directory path extension : String) {separator : Char} (separates : isSeparator separator = true) :
    base extension (directory ++ String.singleton separator ++ path) = base extension path := by
  have chars : (directory ++ String.singleton separator ++ path).toList = directory.toList ++ separator :: path.toList := by
    simp
  rw [base,chars,baseName_behind _ _ separates,base]

theorem base_once {name extension : String} (bare : Bare name) (unmixed : Bare extension) (given : extension ≠ "") :
    base extension (name ++ "." ++ extension) = name := by
  have chars : (name ++ "." ++ extension).toList = name.toList ++ '.' :: extension.toList := by simp
  have whole : ∀ c ∈ name.toList ++ '.' :: extension.toList, isSeparator c = false := by
    intro c member
    rcases List.mem_append.mp member with front | back
    · exact bare c front
    · rcases List.mem_cons.mp back with rfl | last
      · rfl
      · exact unmixed c last
  have nonempty : extension.toList ≠ [] := by simpa using given
  rw [base,chars,baseName_bare whole,dropExtension_once nonempty,String.ofList_toList]

theorem base_kept {name extension : String} (bare : Bare name)
    (kept : extension = "" ∨ ¬ ("." ++ extension).toList <:+ name.toList) : base extension name = name := by
  have plain : extension.toList = [] ∨ ¬ '.' :: extension.toList <:+ name.toList := by simpa using kept
  rw [base,baseName_bare bare,dropExtension_kept plain,String.ofList_toList]

end Label

def IsIdentifier (name : String) : Prop :=
  (∃ c ∈ name.toList.head?, c.isAlpha = true ∨ c = '_') ∧ ∀ c ∈ name.toList, isNameChar c = true

instance (name : String) : Decidable (IsIdentifier name) :=
  decidable_of_iff ((name.toList.head?.any fun c => c.isAlpha || c = '_') ∧ name.toList.all isNameChar) <| by
    simp [IsIdentifier,Option.any_eq_true]

theorem isNameChar_digit {c : Char} (digit : c.isDigit = true) : isNameChar c = true := by
  simp [isNameChar,Char.isAlphanum,digit]

theorem identifier_front (front : String) {back : String} {letter : Char} (starts : back.toList.head? = some letter)
    (alpha : letter.isAlpha = true) :
    IsIdentifier (front ++ back) ↔ (front = "" ∨ IsIdentifier front) ∧ ∀ c ∈ back.toList, isNameChar c = true := by
  unfold IsIdentifier
  rw [String.toList_append,List.forall_mem_append,List.head?_append,starts]
  cases lead : front.toList with
  | nil =>
    have empty : front = "" := String.toList_eq_nil_iff.mp lead
    simp [empty,alpha]
  | cons first others =>
    have given : front ≠ "" := by
      rintro rfl
      cases lead
    simp [given,and_assoc]

namespace UnitNames

theorem kind_starts (k : Kind) : ∃ letter, k.name.toList.head? = some letter ∧ letter.isAlpha = true := by
  cases k with
  | type => exact ⟨'t',rfl,rfl⟩
  | attr => exact ⟨'a',rfl,rfl⟩
  | prop => exact ⟨'p',rfl,rfl⟩
  | successor => exact ⟨'s',rfl,rfl⟩
  | region => exact ⟨'r',rfl,rfl⟩

theorem kind_chars (k : Kind) : ∀ c ∈ (k.name ++ "_constraint_").toList, isNameChar c = true := by
  refine List.all_eq_true.mp ?_
  cases k <;> decide

theorem mint_identifier (lead label : String) (k : Kind) (n : Nat) :
    IsIdentifier ((⟨lead,label⟩ : UnitNames).mint k n) ↔
      (lead = "" ∨ IsIdentifier lead) ∧ ∀ c ∈ label.toList, isNameChar c = true := by
  obtain ⟨letter,starts,alpha⟩ := kind_starts k
  have begins : (k.name ++ "_constraint_" ++ (label ++ toString n)).toList.head? = some letter := by
    rw [String.toList_append,String.toList_append,List.append_assoc,List.head?_append,starts]
    rfl
  have numeral : ∀ c ∈ (toString n).toList, isNameChar c = true := fun c member =>
    isNameChar_digit (numeral_digits n c member)
  have split : (⟨lead,label⟩ : UnitNames).mint k n = lead ++ (k.name ++ "_constraint_" ++ (label ++ toString n)) := by
    simp only [mint,String.append_assoc]
  rw [split,identifier_front lead begins alpha]
  refine and_congr_right fun _ => ?_
  rw [String.toList_append,List.forall_mem_append,String.toList_append (s := label),List.forall_mem_append]
  exact ⟨fun all => all.2.1,fun named => ⟨kind_chars k,named,numeral⟩⟩

end UnitNames

-- The label of a unit is its tag and the name of its source file, spelled in the
-- characters of names; directories and one ending are left out. So names are
-- identifiers wherever the options leave them the chance.
theorem label_spelling_exact (tag : String) :
    (∀ separator ∈ ['/','\\'], ∀ directory path extension,
      unitLabel (directory ++ String.singleton separator ++ path) tag extension = unitLabel path tag extension) ∧
    (∀ name extension, Label.Bare name → Label.Bare extension → extension ≠ "" →
      unitLabel (name ++ "." ++ extension) tag extension = tag ++ Label.spelled name) ∧
    (∀ name extension, Label.Bare name → extension = "" ∨ ¬ ("." ++ extension).toList <:+ name.toList →
      unitLabel name tag extension = tag ++ Label.spelled name) ∧
    ∀ source lead extension k n,
      IsIdentifier ((UnitNames.ofSource source ⟨lead,tag,extension⟩).mint k n) ↔
        (lead = "" ∨ IsIdentifier lead) ∧ ∀ c ∈ tag.toList, isNameChar c = true := by
  refine ⟨?_,?_,?_,?_⟩
  · intro separator listed directory path extension
    have separates : Label.isSeparator separator = true := by
      obtain rfl | rfl : separator = '/' ∨ separator = '\\' := by simpa using listed
      · rfl
      · rfl
    rw [Label.unitLabel_spelled,Label.base_behind _ _ _ separates,← Label.unitLabel_spelled]
  · intro name extension bare unmixed given
    rw [Label.unitLabel_spelled,Label.base_once bare unmixed given]
  · intro name extension bare kept
    rw [Label.unitLabel_spelled,Label.base_kept bare kept]
  · intro source lead extension k n
    rw [UnitNames.ofSource,UnitNames.mint_identifier]
    refine and_congr_right fun _ => ?_
    rw [Label.unitLabel_spelled,String.toList_append,List.forall_mem_append]
    exact and_iff_left (Label.spelled_chars _)

theorem label_spelling_exact_accent :
    '\\' ∈ ['/','\\'] ∧ Label.Bare "é.td" ∧ Label.Bare "td" ∧ "td" ≠ "" ∧ Label.spelled "é.td" = "C3A92Etd" ∧
    unitLabel ("C:\\defs/my" ++ String.singleton '\\' ++ ("é.td" ++ "." ++ "td")) "Pat" "td" =
      "Pat" ++ Label.spelled "é.td" ∧
    Label.Bare "Opstd" ∧ ¬ ("." ++ "td").toList <:+ "Opstd".toList ∧
    unitLabel "Opstd" "Pat" "td" = "Pat" ++ Label.spelled "Opstd" ∧
    IsIdentifier "verify_" ∧ (∀ c ∈ "Pat".toList, isNameChar c = true) ∧
    ∀ source k n, IsIdentifier ((UnitNames.ofSource source ⟨"verify_","Pat","td"⟩).mint k n) := by
  obtain ⟨behind,once,kept,names⟩ := label_spelling_exact "Pat"
  have listed : '\\' ∈ ['/','\\'] := by decide
  have accent : Label.Bare "é.td" := by decide
  have ending : Label.Bare "td" := by decide
  have given : "td" ≠ "" := by decide
  have plain : Label.Bare "Opstd" := by decide
  have other : ¬ ("." ++ "td").toList <:+ "Opstd".toList := by decide
  have lead : IsIdentifier "verify_" := by decide
  have tag : ∀ c ∈ "Pat".toList, isNameChar c = true := List.all_eq_true.mp (by decide)
  refine ⟨listed,accent,ending,given,by decide +kernel,?_,plain,other,kept _ _ plain (.inr other),lead,tag,?_⟩
  · rw [behind _ listed,once _ _ accent ending given]
  · exact fun source k n => (names source "verify_" "td" k n).mpr ⟨.inr lead,tag⟩

end SharedVerifiers
