import SharedVerifiers.Constraint
import SharedVerifiers.Condition
namespace SharedVerifiers
open Condition

def operationExpression : String := "*op"
def builderExpression : String := "rewriter"

def verifierBindings (k : Kind) : Bindings :=
  (Bindings.empty.bind selfName k.name).bind opName operationExpression

def matcherBindings (k : Kind) : Bindings :=
  (verifierBindings k).bind builderName builderExpression

namespace Constraint

def verifierText (c : Constraint) (k : Kind) : Resolution := resolve c.condition (verifierBindings k)
def matcherText (c : Constraint) (k : Kind) : Resolution := resolve c.condition (matcherBindings k)

-- A condition can move into a function of its own when nothing in it refers to
-- the place it came from. A property's function needs a type for its
-- parameter, and a check that is always true is not worth one.
def hoistable (c : Constraint) (k : Kind) : Bool :=
  let outcome := c.verifierText k
  outcome.isResolved && match k with
    | .prop => c.interface.isSome && outcome.text ≠ "true"
    | _ => true

def matchable (c : Constraint) (k : Kind) : Bool := (c.matcherText k).isResolved

end Constraint

end SharedVerifiers
