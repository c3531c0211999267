import SharedVerifiers.Hoisting
import SharedVerifiers.Operation
import SharedVerifiers.Tables
namespace SharedVerifiers

def Operation.constraints (op : Operation) : List (Kind × Constraint) :=
  op.operands.filterMap (fun v => v.constraint.map (Kind.type,·)) ++
  op.results.filterMap (fun v => v.constraint.map (Kind.type,·)) ++
  (op.attributes.filter fun a => !a.derived).map (fun a => (Kind.attr,a.constraint)) ++
  op.properties.map (fun p => (Kind.prop,p.constraint)) ++
  op.successors.map (fun s => (Kind.successor,s.constraint)) ++
  op.regions.map (fun r => (Kind.region,r.constraint))

def sharedByVerifiers (offer : Kind × Constraint) : Bool :=
  offer.2.hasPredicate && offer.2.hoistable offer.1

def sharedByMatchers (offer : Kind × Constraint) : Bool :=
  offer.2.hasPredicate && offer.2.matchable offer.1

def Operation.offers (ops : List Operation) : List (Kind × Constraint) :=
  (ops.flatMap Operation.constraints).filter sharedByVerifiers

def Leaf.offers (leaves : List Leaf) : List (Kind × Constraint) :=
  (leaves.map fun l => (l.kind,l.constraint)).filter sharedByMatchers

namespace Tables

def collectOperations (t : Tables) (ops : List Operation) : Tables := t.collectAll (Operation.offers ops)
def collectLeaves (t : Tables) (leaves : List Leaf) : Tables := t.collectAll (Leaf.offers leaves)

end Tables

end SharedVerifiers
