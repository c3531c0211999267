import SharedVerifiers.Document.Node
import SharedVerifiers.Text.Quoted
namespace SharedVerifiers.Document

inductive Found where
  | atom (value : Atom)
  | seq
  | map
  | labelled
deriving DecidableEq,Repr

inductive Wanted where
  | text
  | flag
  | sequence
  | map
  | unit
  | anything
  | tagOrAnything (tag : String)
  | count (width : String)
  | record (title : String)
  | tagged (title : String)
  | fieldName
  | variantName
  | textOrMap
  | singleKey
  | atom (words : String)
deriving DecidableEq,Repr

inductive WantedLength where
  | recordOf (title : String) (fields : Nat)
  | exactly (count : Nat)
  | fewerInArray
deriving DecidableEq,Repr

inductive Fault where
  | malformed
  | wrongType (found : Found) (wanted : Wanted)
  | wrongValue (found : Found) (wanted : Wanted)
  | wrongLength (length : Nat) (wanted : WantedLength)
  | missingField (name : String)
  | duplicateField (name : String)
  | unknownVariant (name : String) (choices : List String)
deriving DecidableEq,Repr

def Number.phrase (format : Format) : Number → String
  | .natural n => "integer `" ++ toString n ++ "`"
  | .signed i => "integer `" ++ toString i ++ "`"
  | .wide i => "integer `" ++ toString i ++ "` as " ++ (if 0 ≤ i then "u128" else "i128")
  | .fraction x =>
    let style := match format with
      | .yaml => .positional
      | .json | .value => .scientific
    "floating point `" ++ x.text style ++ "`"

def Atom.phrase (format : Format) : Atom → String
  | .null => match format with
    | .yaml => "unit value"
    | .json | .value => "null"
  | .bool b => "boolean `" ++ (if b then "true" else "false") ++ "`"
  | .number n => n.phrase format
  | .text s => "string " ++ Text.quote s
  | .misfit s _ => "string " ++ Text.quote s

def Found.phrase (format : Format) : Found → String
  | .atom a => a.phrase format
  | .seq => "sequence"
  | .map => "map"
  | .labelled => "enum"

def Wanted.phrase : Wanted → String
  | .text => "a string"
  | .flag => "a boolean"
  | .sequence => "a sequence"
  | .map => "a map"
  | .unit => "unit"
  | .anything => "any value"
  | .tagOrAnything tag => "a type tag `" ++ tag ++ "` or any other value"
  | .count width => width
  | .record title => title
  | .tagged title => "internally tagged enum " ++ title
  | .fieldName => "field identifier"
  | .variantName => "variant identifier"
  | .textOrMap => "string or map"
  | .singleKey => "map with a single key"
  | .atom words => words

def elements (n : Nat) : String := toString n ++ (if n = 1 then " element" else " elements")

def WantedLength.phrase : WantedLength → String
  | .recordOf title fields => title ++ " with " ++ elements fields
  | .exactly count => elements count ++ " in sequence"
  | .fewerInArray => "fewer elements in array"

def quoteName (name : String) : String := "`" ++ name ++ "`"

def choicesText : List String → String
  | [] => "there are no variants"
  | [only] => "expected " ++ quoteName only
  | [first,second] => "expected " ++ quoteName first ++ " or " ++ quoteName second
  | many => "expected one of " ++ String.intercalate ", " (many.map quoteName)

def Fault.message (format : Format) : Fault → Option String
  | .malformed => none
  | .wrongType found wanted => some ("invalid type: " ++ found.phrase format ++ ", expected " ++ wanted.phrase)
  | .wrongValue found wanted => some ("invalid value: " ++ found.phrase format ++ ", expected " ++ wanted.phrase)
  | .wrongLength n wanted => some ("invalid length " ++ toString n ++ ", expected " ++ wanted.phrase)
  | .missingField name => some ("missing field " ++ quoteName name)
  | .duplicateField name => some ("duplicate field " ++ quoteName name)
  | .unknownVariant name choices =>
    some ("unknown variant " ++ quoteName name ++ ", " ++ choicesText choices)

inductive Step where
  | field (name : String)
  | item (index : Nat)
deriving DecidableEq,Repr

structure Refusal where
  fault : Fault
  place : Option (List Step) := none
deriving DecidableEq,Repr

namespace Refusal

-- The innermost reader that knows its place gives it.
def here (r : Refusal) : Refusal := {r with place := some (r.place.getD [])}
def under (step : Step) (r : Refusal) : Refusal := {r with place := r.place.map (step :: ·)}

end Refusal

def placeText (steps : List Step) : String :=
  (steps.foldl (fun (before : String) step => match step with
    | .field name => (if before = "" then "" else before ++ ".") ++ name
    | .item index => (if before = "" then "." else before) ++ "[" ++ toString index ++ "]") "")

def Refusal.message (format : Format) (r : Refusal) : Option String :=
  (r.fault.message format).map fun words => match format,r.place with
    | .yaml,some (step :: steps) => placeText (step :: steps) ++ ": " ++ words
    | _,_ => words

end SharedVerifiers.Document
