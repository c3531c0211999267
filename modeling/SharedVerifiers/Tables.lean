import SharedVerifiers.Registry
namespace SharedVerifiers

structure Tables where
  names : UnitNames
  types : Registry := .empty .type
  attrs : Registry := .empty .attr
  props : Registry := .empty .prop
  successors : Registry := .empty .successor
  regions : Registry := .empty .region

namespace Tables

def ofSource (source : String) (options : Options) : Tables := {names := .ofSource source options}

def label (t : Tables) : String := t.names.label

def registry (t : Tables) : Kind → Registry
  | .type => t.types
  | .attr => t.attrs
  | .prop => t.props
  | .successor => t.successors
  | .region => t.regions

def withRegistry (t : Tables) (k : Kind) (r : Registry) : Tables :=
  match k with
  | .type => {t with types := r}
  | .attr => {t with attrs := r}
  | .prop => {t with props := r}
  | .successor => {t with successors := r}
  | .region => {t with regions := r}

theorem registry_withRegistry (t : Tables) (k asked : Kind) (r : Registry) :
    (t.withRegistry k r).registry asked = if asked = k then r else t.registry asked := by
  cases k <;> cases asked <;> rfl

theorem names_withRegistry (t : Tables) (k : Kind) (r : Registry) :
    (t.withRegistry k r).names = t.names := by
  cases k <;> rfl

def collect (t : Tables) (k : Kind) (c : Constraint) : Tables × String :=
  let (r,name) := (t.registry k).intern t.names c
  (t.withRegistry k r,name)

def collectAll (t : Tables) (offers : List (Kind × Constraint)) : Tables :=
  offers.foldl (fun t offer => (t.collect offer.1 offer.2).1) t

def sizes (t : Tables) : List Nat := Kind.all.map fun k => (t.registry k).size
def size (t : Tables) : Nat := Kind.total fun k => (t.registry k).size
def isEmpty (t : Tables) : Bool := t.size == 0

end Tables

-- Attribute and property conditions may have stayed where they were; a miss on
-- any other kind is taken for a mistake of the caller.
inductive Lookup where
  | found (name : String)
  | leftInline
  | uncollected (kind : Kind) (constraint : Constraint)
deriving DecidableEq,Repr

def Lookup.message : Lookup → Option String
  | .uncollected k c =>
    some ("expected to find a " ++ k.name ++ " constraint for `" ++ c.condition ++ "` (" ++ c.summary ++ ")")
  | _ => none

def Tables.lookup (t : Tables) (k : Kind) (c : Constraint) : Lookup :=
  match (t.registry k).get? c with
  | some name => .found name
  | none => match k with
    | .attr | .prop => .leftInline
    | .type | .successor | .region => .uncollected k c

end SharedVerifiers
