import SharedVerifiers.Decimal.Written
namespace SharedVerifiers.Document

-- Powers of two: 64, 63, 128 and 127.
def wordBound : Nat := 18446744073709551616
def signedBound : Nat := 9223372036854775808
def wideBound : Nat := 340282366920938463463374607431768211456
def wideSignedBound : Nat := 170141183460469231731687303715884105728

inductive Number where
  | natural (value : Nat)
  | signed (value : Int)
  | wide (value : Int)
  | fraction (value : Decimal.Binary)
deriving DecidableEq,Repr

-- A scalar whose explicit type it does not fit is a `misfit`.
inductive Atom where
  | null
  | bool (value : Bool)
  | number (value : Number)
  | text (value : String)
  | misfit (words expected : String)
deriving DecidableEq,Repr

inductive Presence where
  | given | absent | misfit
deriving DecidableEq,Repr

-- What a scalar is taken for depends on what is wanted: `flag` is the flag that
-- it spells if it may be one, and `vacant` holds when nothing at all is written.
structure Spelling where
  words : String
  flag : Option Bool := none
  vacant : Bool := false
  presence : Presence := .given
deriving DecidableEq,Repr

-- Where the text stops making sense there is a `broken` node, and every container
-- around that point is open. An `unreadable` scalar is well formed but has no
-- value; it may be passed over. An `alias` stands for a numbered node.
inductive Node where
  | broken
  | unreadable
  | scalar (value : Atom) (spelling : Option Spelling)
  | seq (items : List Node) (closed : Bool)
  | map (entries : List (Node × Node)) (closed : Bool)
  | labelled (inner : Node)
  | alias (target : Nat)
deriving Repr

instance : Inhabited Node := ⟨.broken⟩

namespace Node

def null : Node := .scalar .null none
def text (words : String) : Node := .scalar (.text words) none
def bool (value : Bool) : Node := .scalar (.bool value) none

def bare : Node → Node
  | .labelled inner => inner.bare
  | n => n

def words? (n : Node) : Option String :=
  match n.bare with
  | .scalar _ (some spelling) => some spelling.words
  | .scalar (.text words) none => some words
  | _ => none

mutual
def height (n : Node) : Nat :=
  match n with
  | .seq items _ => heightItems items + 1
  | .map entries _ => heightEntries entries + 1
  | .labelled inner => inner.height
  | _ => 0
def heightItems (items : List Node) : Nat :=
  match items with
  | [] => 0
  | n :: rest => max n.height (heightItems rest)
def heightEntries (entries : List (Node × Node)) : Nat :=
  match entries with
  | [] => 0
  | (key,n) :: rest => max (max key.height n.height) (heightEntries rest)
end

end Node

-- `complete` holds when nothing but space follows the root. An alias may stand
-- inside its own target, so only `follows` of them are followed in one reading.
structure Tree where
  root : Node
  complete : Bool
  targets : Array Node := #[]
  follows : Nat := 0
deriving Repr

inductive Format where
  | json | value | yaml
deriving DecidableEq,Repr

def Format.depthLimit : Format → Option Nat
  | .json => some 127
  | .value => none
  | .yaml => some 128

end SharedVerifiers.Document
