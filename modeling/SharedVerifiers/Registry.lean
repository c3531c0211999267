import Std.Data.HashMap
import SharedVerifiers.Naming
namespace SharedVerifiers

structure Entry where
  constraint : Constraint
  name : String
deriving DecidableEq,Repr

-- `places` gives the position of each identity, so that a lookup need not walk
-- the entries.
structure Registry where
  kind : Kind
  entries : List Entry := []
  places : Std.HashMap Identity Nat := ∅
  placed : ∀ identity : Identity, places[identity]? =
    entries.findIdx? fun e => e.constraint.identity = identity := by simp

namespace Registry

def empty (k : Kind) : Registry := {kind := k}

def size (r : Registry) : Nat := r.entries.length

def isEmpty (r : Registry) : Bool := r.entries.isEmpty

def find? (r : Registry) (c : Constraint) : Option Entry :=
  match r.places[c.identity]? with
  | some place => r.entries[place]?
  | none => none

def get? (r : Registry) (c : Constraint) : Option String := (r.find? c).map Entry.name

theorem find_scan (r : Registry) (c : Constraint) :
    r.find? c = r.entries.find? fun e => e.constraint.identity = c.identity := by
  unfold find?
  rw [r.placed,List.find?_eq_bind_findIdx?_getElem?]
  cases r.entries.findIdx? fun e => e.constraint.identity = c.identity <;> rfl

theorem placed_behind (r : Registry) (e : Entry) (missing : r.get? e.constraint = none)
    (identity : Identity) :
    (r.places.insert e.constraint.identity r.size)[identity]? =
      (r.entries ++ [e]).findIdx? fun e => e.constraint.identity = identity := by
  simp only [Std.HashMap.getElem?_insert,List.findIdx?_append]
  by_cases same : e.constraint.identity = identity
  · have absent : r.places[identity]? = none := by
      rw [r.placed,← same,List.findIdx?_eq_none_iff]
      simpa [get?,find_scan] using missing
    rw [r.placed] at absent
    simp [same,absent,size]
  · simp [same,r.placed identity]

-- A constraint met before keeps its name; the constraint seen first stays, with
-- its summary. A new one takes the next ordinal, counted from one.
def intern (r : Registry) (names : UnitNames) (c : Constraint) : Registry × String :=
  match missing : r.get? c with
  | some name => (r,name)
  | none =>
    let name := names.mint r.kind (r.size + 1)
    ({r with
      entries := r.entries ++ [⟨c,name⟩]
      places := r.places.insert c.identity r.size
      placed := r.placed_behind ⟨c,name⟩ missing},name)

theorem intern_known {r : Registry} {c : Constraint} {name : String} (names : UnitNames)
    (known : r.get? c = some name) : r.intern names c = (r,name) := by
  unfold intern
  split
  · rename_i found
    simp [Option.some.inj (found.symm.trans known)]
  · rename_i missing
    simp [missing] at known

theorem intern_new {r : Registry} {c : Constraint} (names : UnitNames) (missing : r.get? c = none) :
    (r.intern names c).1.entries = r.entries ++ [⟨c,names.mint r.kind (r.size + 1)⟩] ∧
      (r.intern names c).2 = names.mint r.kind (r.size + 1) := by
  unfold intern
  split
  · rename_i found
    simp [missing] at found
  · exact ⟨rfl,rfl⟩

theorem intern_kind (r : Registry) (names : UnitNames) (c : Constraint) :
    (r.intern names c).1.kind = r.kind := by
  unfold intern
  split <;> rfl

end Registry

end SharedVerifiers
