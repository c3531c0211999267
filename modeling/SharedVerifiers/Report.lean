import SharedVerifiers.Constraint
import SharedVerifiers.Digest
namespace SharedVerifiers

inductive EntryPoint where
  | op | pattern
deriving DecidableEq,Repr

namespace EntryPoint
def all : List EntryPoint := [.op,.pattern]
def name : EntryPoint → String
  | .op => "op"
  | .pattern => "pattern"
def ofName? (word : String) : Option EntryPoint := all.find? fun e => e.name == word
theorem ofName_name (e : EntryPoint) : ofName? e.name = some e := by cases e <;> decide
end EntryPoint

-- A kind without a number is not the same as one with zero.
structure Counts where
  type : Option Nat := none
  attr : Option Nat := none
  prop : Option Nat := none
  successor : Option Nat := none
  region : Option Nat := none
deriving DecidableEq,Repr

namespace Counts

def get? (c : Counts) : Kind → Option Nat
  | .type => c.type
  | .attr => c.attr
  | .prop => c.prop
  | .successor => c.successor
  | .region => c.region

def set (c : Counts) (k : Kind) (n : Nat) : Counts :=
  match k with
  | .type => {c with type := some n}
  | .attr => {c with attr := some n}
  | .prop => {c with prop := some n}
  | .successor => {c with successor := some n}
  | .region => {c with region := some n}

theorem get_set (c : Counts) (k asked : Kind) (n : Nat) :
    (c.set k n).get? asked = if asked = k then some n else c.get? asked := by
  cases k <;> cases asked <;> rfl

def ofList (pairs : List (Kind × Nat)) : Counts := pairs.foldl (fun c p => c.set p.1 p.2) {}

def toList (c : Counts) : List (Kind × Nat) := Kind.all.filterMap fun k => (c.get? k).map (k,·)

end Counts

structure Report where
  label : String
  entryPoint : EntryPoint
  instances : Counts
  bytes : Nat
  outputHash : String
deriving DecidableEq,Repr

namespace Report

def count (r : Report) (k : Kind) : Nat := (r.instances.get? k).getD 0

-- A total is a word of 64 bits, as the counts are.
def total (r : Report) : Nat := (UInt64.ofNat (Kind.total r.count)).toNat

def hashText (digest : String) : String := "blake3:" ++ digest

def hashOf (written : List UInt8) : String := hashText (Digest.hexDigest written)

end Report

end SharedVerifiers
