import SharedVerifiers.Document.Reading
import SharedVerifiers.Json.Tree
namespace SharedVerifiers.Json
open Document

inductive Value where
  | null
  | bool (value : Bool)
  | number (value : Number)
  | text (words : String)
  | array (items : List Value)
  | object (members : List (String × Value))
deriving Repr

namespace Value

def natural (n : Nat) : Value := .number (.natural n)

def insertMember (name : String) (v : Value) : List (String × Value) → List (String × Value)
  | [] => [(name,v)]
  | (other,w) :: rest =>
    if name = other then (name,v) :: rest
    else if name < other then (name,v) :: (other,w) :: rest
    else (other,w) :: insertMember name v rest

mutual
def ofNode? (n : Node) : Option Value :=
  match n with
  | .scalar .null _ => some .null
  | .scalar (.bool b) _ => some (.bool b)
  | .scalar (.number n) _ => some (.number n)
  | .scalar (.text words) _ => some (.text words)
  | .seq items true => (ofItems? items).map .array
  | .map entries true => (ofEntries? entries).map fun pairs =>
    .object (pairs.foldl (fun members pair => insertMember pair.1 pair.2 members) [])
  | _ => none
def ofItems? (items : List Node) : Option (List Value) :=
  match items with
  | [] => some []
  | n :: rest => do
    let first ← ofNode? n
    let more ← ofItems? rest
    return first :: more
def ofEntries? (entries : List (Node × Node)) : Option (List (String × Value)) :=
  match entries with
  | [] => some []
  | (key,n) :: rest => do
    let name ← key.words?
    let first ← ofNode? n
    let more ← ofEntries? rest
    return (name,first) :: more
end

def ofTree? (t : Tree) : Option Value := if t.complete then ofNode? t.root else none

mutual
def toNode (v : Value) : Node :=
  match v with
  | .null => .null
  | .bool b => .bool b
  | .number n => .scalar (.number n) none
  | .text words => .text words
  | .array items => .seq (toItems items) true
  | .object members => .map (toEntries members) true
def toItems (items : List Value) : List Node :=
  match items with
  | [] => []
  | v :: rest => v.toNode :: toItems rest
def toEntries (members : List (String × Value)) : List (Node × Node) :=
  match members with
  | [] => []
  | (name,v) :: rest => (.text name,v.toNode) :: toEntries rest
end

def toTree (v : Value) : Tree := {root := v.toNode,complete := true}

def member? (v : Value) (name : String) : Option Value :=
  match v with
  | .object members => members.lookup name
  | _ => none

def renderChar (c : Char) : List Char :=
  if c = '"' then ['\\','"']
  else if c = '\\' then ['\\','\\']
  else if c.toNat < 32 then
    ['\\','u','0','0',Char.ofNat (48 + c.toNat / 16),
      (Nat.toDigits 16 (c.toNat % 16)).headD '0']
  else [c]

def renderText (words : String) : String :=
  String.ofList ('"' :: words.toList.flatMap renderChar ++ ['"'])

def renderNumber : Number → String
  | .natural n => toString n
  | .signed i => toString i
  | .wide i => toString i
  | .fraction x => x.text .scientific

mutual
def render (v : Value) : String :=
  match v with
  | .null => "null"
  | .bool b => if b then "true" else "false"
  | .number n => renderNumber n
  | .text words => renderText words
  | .array items => "[" ++ renderItems true items ++ "]"
  | .object members => "\x7b" ++ renderMembers true members ++ "\x7d"
def renderItems (isFirst : Bool) (items : List Value) : String :=
  match items with
  | [] => ""
  | v :: rest => (if isFirst then "" else ",") ++ v.render ++ renderItems false rest
def renderMembers (isFirst : Bool) (members : List (String × Value)) : String :=
  match members with
  | [] => ""
  | (name,v) :: rest =>
    (if isFirst then "" else ",") ++ renderText name ++ ":" ++ v.render ++ renderMembers false rest
end

end Value

end SharedVerifiers.Json
