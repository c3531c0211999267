import SharedVerifiers.Document.Reading
namespace SharedVerifiers.Document

structure Field (α : Type) where
  name : String
  required : Bool
  read : Reading → Node → α → Outcome α

def Field.must {α β : Type} (name : String) (read : Reader β) (put : β → α → α) : Field α :=
  ⟨name,true,fun r n a => (put · a) <$> read r n⟩

def Field.may {α β : Type} (name : String) (read : Reader β) (put : β → α → α) : Field α :=
  ⟨name,false,fun r n a => (put · a) <$> read r n⟩

-- `blank` holds the value of every field that is left out.
structure Record (α : Type) where
  title : String
  blank : α
  fields : List (Field α)

namespace Record
variable {α : Type}

def wanted (rec : Record α) : Wanted := .record rec.title

-- Kept keys may also be the number of a field.
def field? (rec : Record α) (r : Reading) (key : Node) : Outcome (Option (Field α)) := do
  let key ← r.follow key
  match r.kept,key.bare with
  | true,.scalar (.number (.natural index)) _ => return rec.fields[index]?
  | _,_ => match key.words? with
    | some words => return rec.fields.find? fun f => f.name == words
    | none => if r.format = .json then refuse .malformed else key.refuseFor .fieldName

-- The first fault met is the one that counts: a name met a second time counts
-- before its node is looked at.
def readEntries (rec : Record α) (r : Reading) (a : α) (seen : List String) :
    List (Node × Node) → Outcome (α × List String)
  | [] => return (a,seen)
  | (key,n) :: rest => do
    match ← rec.field? r key with
    | none => readEntries rec r a seen rest
    | some f =>
      if f.name ∈ seen then refuse (.duplicateField f.name)
      let a ← Reading.under key.step (f.read r n a)
      readEntries rec r a (f.name :: seen) rest

def firstMissing (rec : Record α) (seen : List String) : Option String :=
  (rec.fields.find? fun f => f.required && f.name ∉ seen).map Field.name

def finish (rec : Record α) (outcome : α × List String) : Outcome α :=
  match rec.firstMissing outcome.2 with
  | some name => refuse (.missingField name)
  | none => return outcome.1

def refuseSurplus (r : Reading) (fields items : Nat) : Outcome α :=
  if r.kept then refuse (.wrongLength items (.exactly fields))
  else if r.format = .value then refuse (.wrongLength items .fewerInArray)
  else refuse .malformed

def readRow (rec : Record α) (r : Reading) (closed : Bool) (total : Nat) (a : α) (index : Nat) :
    List (Field α) → List Node → Outcome α
  | [],[] => if closed then return a else refuse .malformed
  | [],_ :: _ => refuseSurplus r index total
  | f :: fields,[] =>
    if !closed then refuse .malformed
    else if f.required then refuse (.wrongLength index (.recordOf rec.title rec.fields.length))
    else readRow rec r closed total a index fields []
  | f :: fields,n :: rest => do
    let a ← Reading.under (.item index) (f.read r n a)
    readRow rec r closed total a (index + 1) fields rest

def read (rec : Record α) : Reader α := fun r n => r.locate do
  let n ← r.follow n
  match n.bare with
  | .map entries closed =>
    let outcome ← rec.readEntries r.deeper rec.blank [] entries
    if closed then rec.finish outcome else refuse .malformed
  | .seq items closed =>
    if r.allowsRows then rec.readRow r.deeper closed items.length rec.blank 0 rec.fields items
    else n.refuseFor rec.wanted
  | _ => if n.isVacant then rec.finish (rec.blank,[]) else n.refuseFor rec.wanted

end Record

end SharedVerifiers.Document
