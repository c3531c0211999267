import SharedVerifiers.Document.Node
import SharedVerifiers.Text.Bytes
import SharedVerifiers.Yaml.Token
namespace SharedVerifiers.Yaml
open Document

def nullOf (words : String) : Bool := ["null","Null","NULL","~"].contains words

def boolOf (words : String) : Option Bool :=
  if ["true","True","TRUE"].contains words then some true
  else if ["false","False","FALSE"].contains words then some false
  else none

def digitsOf (base : Nat) (digits : List Char) : Option Nat :=
  if digits = [] then none
  else digits.foldl (fun n c => do
    let n ← n
    let d ← hexValue? c
    if d < base then some (base * n + d) else none) (some 0)

def hasLeadingZero (words : List Char) : Bool :=
  let digits := match words with
    | c :: rest => if c = '+' || c = '-' then rest else words
    | [] => []
  1 < digits.length && digits.head? = some '0' && digits.all Char.isDigit

def radixDigits (words : List Char) : Option Nat :=
  match words with
  | '0' :: 'x' :: rest => digitsOf 16 rest
  | '0' :: 'o' :: rest => digitsOf 8 rest
  | '0' :: 'b' :: rest => digitsOf 2 rest
  | _ => digitsOf 10 words

def naturalOf (n : Nat) : Option Number :=
  if n < wordBound then some (.natural n) else if n < wideBound then some (.wide n) else none

def negativeOf (n : Nat) : Option Number :=
  if n ≤ signedBound then some (.signed (-n)) else if n ≤ wideSignedBound then some (.wide (-n)) else none

def intOf (words : List Char) : Option Number :=
  if hasLeadingZero words then none
  else match words with
    | '-' :: rest => (radixDigits rest).bind negativeOf
    | '+' :: rest => (radixDigits rest).bind naturalOf
    | rest => (radixDigits rest).bind naturalOf

def decimalOf (negative : Bool) (words : List Char) : Option Decimal.Binary :=
  let whole := words.takeWhile Char.isDigit
  let rest := words.drop whole.length
  let places := match rest with
    | '.' :: more => more.takeWhile Char.isDigit
    | _ => []
  let rest := match rest with
    | '.' :: more => more.drop places.length
    | other => other
  let exponent : Option Int := match rest with
    | [] => some 0
    | c :: more =>
      if c = 'e' || c = 'E' then
        match more with
        | '-' :: digits => (digitsOf 10 digits).map fun n => -(n : Int)
        | '+' :: digits => (digitsOf 10 digits).map fun n => (n : Int)
        | digits => (digitsOf 10 digits).map fun n => (n : Int)
      else none
  if whole = [] && places = [] then none
  else do
    let exponent ← exponent
    let digits ← digitsOf 10 (whole ++ places)
    let m ← Decimal.ofDecimal digits (exponent - places.length)
    return .finite negative m

def fractionOf (words : List Char) : Option Decimal.Binary :=
  let text := String.ofList words
  let unsigned := match words with
    | '+' :: rest => String.ofList rest
    | _ => text
  if [".inf",".Inf",".INF"].contains unsigned then some (.infinite false)
  else if ["-.inf","-.Inf","-.INF"].contains text then some (.infinite true)
  else if [".nan",".NaN",".NAN"].contains text then some .undefined
  else match words with
    | '-' :: rest => decimalOf true rest
    | '+' :: rest => decimalOf false rest
    | rest => decimalOf false rest

def plainAtom (words : List Char) : Atom :=
  let text := String.ofList words
  if text = "" || nullOf text then .null
  else match boolOf text with
    | some b => .bool b
    | none => match intOf words with
      | some n => .number n
      | none =>
        if hasLeadingZero words then .text text
        else match fractionOf words with
          | some x => .number (.fraction x)
          | none => .text text

inductive TagKind where
  | bool | int | float | null | own | other
deriving DecidableEq,Repr

def coreTag (name : String) : List UInt8 := Text.bytes ("tag:yaml.org,2002:" ++ name)

def tagKind (tag : List UInt8) : TagKind :=
  if tag = coreTag "bool" then .bool
  else if tag = coreTag "int" then .int
  else if tag = coreTag "float" then .float
  else if tag = coreTag "null" then .null
  else if tag.head? = some (asciiByte '!') then .own
  else .other

def scalarAtom (words : List Char) (style : Style) (kind : Option TagKind) : Atom :=
  let text := String.ofList words
  match kind with
  | some .bool => match boolOf text with
    | some b => .bool b
    | none => .misfit text "a boolean"
  | some .int => match intOf words with
    | some n => .number n
    | none => .misfit text "an integer"
  | some .float => match fractionOf words with
    | some x => .number (.fraction x)
    | none => .misfit text "a float"
  | some .null => if nullOf text then .null else .misfit text "null"
  | some .other => .text text
  | some .own | none => if style = .plain then plainAtom words else .text text

-- Only a plain scalar can be vacant or count as not given.
def scalarSpelling (words : List Char) (style : Style) (kind : Option TagKind) : Spelling :=
  let text := String.ofList words
  let presence : Presence := match kind with
    | none => if text = "" || nullOf text then .absent else .given
    | some .null => if nullOf text then .absent else .misfit
    | some _ => .given
  { words := text
    flag := if style = .plain || (style = .literal && kind = some .bool) then boolOf text else none
    vacant := style = .plain && words.isEmpty
    presence := if style = .plain then presence else .given}

def isLabel (tag : Option (List UInt8)) : Bool :=
  match tag with
  | some (sign :: name) => sign = asciiByte '!' && (Text.ofBytes? name).isSome
  | _ => false

def labelled (tag : Option (List UInt8)) (n : Node) : Node := if isLabel tag then .labelled n else n

def scalarNode (words : List Char) (style : Style) (tag : Option (List UInt8)) : Node :=
  let kind := tag.map tagKind
  labelled tag (.scalar (scalarAtom words style kind) (some (scalarSpelling words style kind)))

def emptyNode : Node := scalarNode [] .plain none

end SharedVerifiers.Yaml
