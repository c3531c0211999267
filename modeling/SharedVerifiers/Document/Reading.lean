import SharedVerifiers.Document.Refusal
namespace SharedVerifiers.Document

-- Inside a tagged union nodes are `kept` first and read afterwards: they have
-- lost their spelling and their place by then, and a record may be given as a
-- sequence in every format.
structure Reading where
  format : Format
  kept : Bool := false
  depth : Nat := 0
  targets : Array Node := #[]
deriving Repr

-- The state is the number of aliases that may still be followed.
abbrev Outcome (α : Type) := StateT Nat (Except Refusal) α

abbrev Reader (α : Type) := Reading → Node → Outcome α

def refuse {α : Type} (fault : Fault) : Outcome α := fun _ => .error ⟨fault,none⟩

namespace Reading

def deeper (r : Reading) : Reading := {r with depth := r.depth + 1}

def allowsRows (r : Reading) : Bool := r.kept || r.format != .yaml

def locate {α : Type} (r : Reading) (outcome : Outcome α) : Outcome α :=
  fun follows => if r.kept then outcome follows else (outcome follows).mapError Refusal.here

def under {α : Type} (step : Step) (outcome : Outcome α) : Outcome α :=
  fun follows => (outcome follows).mapError (Refusal.under step)

def follow (r : Reading) (n : Node) : Outcome Node :=
  match n with
  | .alias number => fun follows => match follows,r.targets[number]? with
    | follows+1,some target => .ok (target,follows)
    | _,_ => .error ⟨.malformed,none⟩
  | n => return n

end Reading

namespace Node

def step (key : Node) : Step := .field (key.words?.getD "?")

def refuseFor {α : Type} (n : Node) (wanted : Wanted) : Outcome α :=
  match n.bare with
  | .broken | .unreadable | .labelled _ | .alias _ => refuse .malformed
  | .scalar (.misfit words expected) _ => refuse (.wrongValue (.atom (.text words)) (.atom expected))
  | .scalar value _ => refuse (.wrongType (.atom value) wanted)
  | .seq _ _ => refuse (.wrongType .seq wanted)
  | .map _ _ => refuse (.wrongType .map wanted)

def flag? (n : Node) : Option Bool :=
  match n.bare with
  | .scalar (.bool b) none => some b
  | .scalar _ (some spelling) => spelling.flag
  | _ => none

def isVacant (n : Node) : Bool :=
  match n.bare with
  | .scalar _ (some spelling) => spelling.vacant
  | _ => false

def presence (n : Node) : Presence :=
  match n.bare with
  | .scalar .null none => .absent
  | .scalar _ (some spelling) => spelling.presence
  | _ => .given

end Node

def readText : Reader String := fun r n => r.locate do
  let n ← r.follow n
  match n.words? with
  | some words => return words
  | none => n.refuseFor .text

def readFlag : Reader Bool := fun r n => r.locate do
  let n ← r.follow n
  match n.flag? with
  | some b => return b
  | none => n.refuseFor .flag

def readOption {α : Type} (read : Reader α) : Reader (Option α) := fun r n => do
  let n ← r.follow n
  match n.presence with
  | .absent => return none
  | .given => some <$> read r n
  | .misfit => refuse (.wrongValue (.atom (.text (n.words?.getD ""))) (.atom "null"))

def readItems {α : Type} (read : Reader α) (r : Reading) (index : Nat) : List Node → Outcome (List α)
  | [] => return []
  | n :: rest => do
    let first ← Reading.under (.item index) (read r n)
    let more ← readItems read r (index + 1) rest
    return first :: more

def readList {α : Type} (read : Reader α) : Reader (List α) := fun r n => r.locate do
  let n ← r.follow n
  match n.bare with
  | .seq items closed =>
    let values ← readItems read r.deeper 0 items
    if closed then return values else refuse .malformed
  | _ => if n.isVacant then return [] else n.refuseFor .sequence

def readCount (width : String) : Reader Nat := fun r n => r.locate do
  let n ← r.follow n
  match n.bare with
  | .scalar (.number (.natural count)) none => return count
  | .scalar (.number (.signed i)) none =>
    if 0 ≤ i then return i.toNat else refuse (.wrongValue (.atom (.number (.signed i))) (.count width))
  | _ => n.refuseFor (.count width)

def chooseWord {α : Type} (choices : List α) (name : α → String) (words : String) : Outcome α :=
  match choices.find? fun a => name a == words with
  | some a => return a
  | none => refuse (.unknownVariant words (choices.map name))

def readWord {α : Type} (choices : List α) (name : α → String) : Reader α := fun r n => r.locate do
  let n ← r.follow n
  match n.words? with
  | some words => chooseWord choices name words
  | none => n.refuseFor .variantName

def readNothing : Reader Unit := fun _ n =>
  match n.bare with
  | .scalar .null _ => return ()
  | _ => n.refuseFor .unit

def readChoice {α : Type} (choices : List α) (name : α → String) : Reader α := fun r n =>
  match n.bare with
  | .scalar (.text words) _ => chooseWord choices name words
  | .map entries closed => match r.format with
    | .value => match entries with
      | [(key,content)] => do
        let chosen ← readWord choices name r key
        readNothing r content
        return chosen
      | _ => refuse (.wrongValue .map .singleKey)
    | _ => match entries with
      | (key,content) :: rest => do
        let chosen ← readWord choices name r key
        readNothing r content
        if rest.isEmpty && closed then return chosen else refuse .malformed
      | [] => refuse .malformed
  | _ => match r.format with
    | .value => n.refuseFor .textOrMap
    | _ => refuse .malformed

def Tree.read {α : Type} (t : Tree) (format : Format) (read : Reader α) : Except Refusal α := do
  let (value,_) ← read ⟨format,false,0,t.targets⟩ t.root t.follows
  if t.complete then return value else .error ⟨.malformed,none⟩

end SharedVerifiers.Document
