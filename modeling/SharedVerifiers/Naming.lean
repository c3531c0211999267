import SharedVerifiers.Constraint
import SharedVerifiers.Text.Bytes
namespace SharedVerifiers

structure Options where
  namePrefix : String := "__mlir_ods_local_"
  tag : String := ""
  sourceExtension : String := "td"
deriving DecidableEq,Repr

namespace Label

def isSeparator (c : Char) : Bool := c == '/' || c == '\\'

def baseName (source : List Char) : List Char := (source.reverse.takeWhile fun c => !isSeparator c).reverse

-- One ending `.extension` goes, never two; an empty extension names no ending.
def dropExtension (extension base : List Char) : List Char :=
  if extension = [] then base
  else if ('.' :: extension).isSuffixOf base then base.take (base.length - (extension.length + 1))
  else base

def isNameByte (b : UInt8) : Bool :=
  (48 ≤ b && b ≤ 57) || (65 ≤ b && b ≤ 90) || (97 ≤ b && b ≤ 122) || b == 95

def encodeByte (b : UInt8) : List Char :=
  if isNameByte b then [Char.ofNat b.toNat] else Text.hexUpper b

def encode (base : List Char) : List Char :=
  (base.flatMap String.utf8EncodeChar).flatMap encodeByte

end Label

def unitLabel (source tag extension : String) : String :=
  tag ++ String.ofList
    (Label.encode (Label.dropExtension extension.toList (Label.baseName source.toList)))

structure UnitNames where
  lead : String
  label : String
deriving DecidableEq,Repr

namespace UnitNames

def ofSource (source : String) (options : Options) : UnitNames :=
  ⟨options.namePrefix,unitLabel source options.tag options.sourceExtension⟩

-- No separator stands between the label and the ordinal, so units whose labels
-- differ in final digits only may share names.
def mint (names : UnitNames) (k : Kind) (ordinal : Nat) : String :=
  names.lead ++ k.name ++ "_constraint_" ++ names.label ++ toString ordinal

end UnitNames

end SharedVerifiers
