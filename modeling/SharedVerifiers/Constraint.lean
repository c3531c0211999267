import SharedVerifiers.Text.Blank
namespace SharedVerifiers

-- The order of the constructors is the order of emission.
inductive Kind where
  | type | attr | prop | successor | region
deriving DecidableEq,Repr

namespace Kind

def all : List Kind := [.type,.attr,.prop,.successor,.region]

def name : Kind → String
  | .type => "type"
  | .attr => "attr"
  | .prop => "prop"
  | .successor => "successor"
  | .region => "region"

def ofName? (word : String) : Option Kind := all.find? fun k => k.name == word

def index : Kind → Nat
  | .type => 0
  | .attr => 1
  | .prop => 2
  | .successor => 3
  | .region => 4

def total (number : Kind → Nat) : Nat :=
  number .type + number .attr + number .prop + number .successor + number .region

def after (k : Kind) : List Kind := all.filter fun other => k.index < other.index

theorem mem_all (k : Kind) : k ∈ all := by cases k <;> decide
theorem ofName_name (k : Kind) : ofName? k.name = some k := by cases k <;> decide
theorem name_injective {left right : Kind} (same : left.name = right.name) : left = right := by
  have given := congrArg ofName? same
  simpa only [ofName_name,Option.some.injEq] using given

end Kind

structure Constraint where
  condition : String := ""
  summary : String := ""
  interfaceType : Option String := none
deriving DecidableEq,Repr

-- What makes two constraints the same: never the summary, and an empty
-- interface type counts as none.
structure Identity where
  condition : String
  interface : Option String
deriving DecidableEq,Repr

structure Hasher (σ : Type) where
  text : σ → String → σ
  mark : σ → Bool → σ

namespace Identity

def feed {σ : Type} (h : Hasher σ) (s : σ) (i : Identity) : σ :=
  match i.interface with
  | none => h.mark (h.text s i.condition) false
  | some type => h.text (h.mark (h.text s i.condition) true) type

def mixer : Hasher UInt64 := ⟨fun s words => mixHash s (hash words),fun s given => mixHash s (hash given)⟩

instance : Hashable Identity := ⟨feed mixer 7⟩

end Identity

namespace Constraint

def interface (c : Constraint) : Option String := c.interfaceType.filter (· ≠ "")

def identity (c : Constraint) : Identity := ⟨c.condition,c.interface⟩

def SameIdentity (left right : Constraint) : Prop := left.identity = right.identity
instance (left right : Constraint) : Decidable (SameIdentity left right) :=
  inferInstanceAs (Decidable (left.identity = right.identity))

def hasPredicate (c : Constraint) : Bool := Text.hasInk c.condition

theorem SameIdentity.refl (c : Constraint) : SameIdentity c c := rfl
theorem SameIdentity.symm {left right : Constraint} (same : SameIdentity left right) :
    SameIdentity right left := Eq.symm same
theorem SameIdentity.trans {first second third : Constraint} (left : SameIdentity first second)
    (right : SameIdentity second third) : SameIdentity first third := Eq.trans left right

theorem sameIdentity_exact (left right : Constraint) :
    SameIdentity left right ↔ left.condition = right.condition ∧ left.interface = right.interface := by
  simp [SameIdentity,identity]

theorem SameIdentity.hasPredicate {left right : Constraint} (same : SameIdentity left right) :
    left.hasPredicate = right.hasPredicate := by
  simp [Constraint.hasPredicate,((sameIdentity_exact left right).mp same).1]

end Constraint

end SharedVerifiers
