import SharedVerifiers.Naming
import SharedVerifiers.Operation
namespace SharedVerifiers

structure Description where
  source : Option String := none
  options : Options := {}
  operations : List Operation := []
  leaves : List Leaf := []
deriving DecidableEq,Repr

def Description.sourceId (d : Description) : String := d.source.getD ""

end SharedVerifiers
