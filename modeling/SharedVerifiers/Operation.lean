import SharedVerifiers.Constraint
namespace SharedVerifiers

structure Operation.TypedValue where
  name : String
  constraint : Option Constraint := none
deriving DecidableEq,Repr

-- A derived attribute is computed and never stored, so nothing checks it.
structure Operation.Attribute where
  name : String
  constraint : Constraint
  derived : Bool := false
deriving DecidableEq,Repr

structure Operation.Part where
  name : String
  constraint : Constraint
deriving DecidableEq,Repr

structure Operation where
  name : String
  operands : List Operation.TypedValue := []
  results : List Operation.TypedValue := []
  attributes : List Operation.Attribute := []
  properties : List Operation.Part := []
  successors : List Operation.Part := []
  regions : List Operation.Part := []
deriving DecidableEq,Repr

def Operation.TypedValue.hasPredicate (v : Operation.TypedValue) : Bool :=
  match v.constraint with
  | some c => c.hasPredicate
  | none => false

inductive Role where
  | operand | attr | prop
deriving DecidableEq,Repr

def Role.all : List Role := [.operand,.attr,.prop]

def Role.name : Role → String
  | .operand => "operand"
  | .attr => "attr"
  | .prop => "prop"

def Role.ofName? (word : String) : Option Role := Role.all.find? fun r => r.name == word

def Role.kind : Role → Kind
  | .operand => .type
  | .attr => .attr
  | .prop => .prop

theorem Role.ofName_name (r : Role) : Role.ofName? r.name = some r := by cases r <;> decide

structure Leaf where
  role : Role
  constraint : Constraint
deriving DecidableEq,Repr

def Leaf.kind (l : Leaf) : Kind := l.role.kind

end SharedVerifiers
