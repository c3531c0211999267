import Mathlib.Algebra.Group.Nat.Defs
import SharedVerifiers.Proofs.Emitted
namespace SharedVerifiers
open Condition

namespace Description

def demanded (d : Description) (k : Kind) : List Constraint := d.operations.flatMap fun op => op.row k

def verified (d : Description) (k : Kind) : List Constraint :=
  Constraint.newcomers [] ((d.demanded k).filter fun c => c.hasPredicate && c.hoistable k)

def verifierSlots (d : Description) (k : Kind) (c : Constraint) (ordinal : Nat) : Slots := {
  name := d.options.namePrefix ++ k.name ++ "_constraint_" ++
    unitLabel d.sourceId d.options.tag d.options.sourceExtension ++ toString ordinal
  condition := (resolve c.condition ((Bindings.empty.bind "_self" k.name).bind "_op" "*op")).text
  summary := Literal.escape c.summary
  param := if k = .prop then c.interface.getD "" else ""}

def verifierInstances (d : Description) (k : Kind) : List Instance :=
  ((d.verified k).zipIdx 1).map fun numbered => ⟨.verifier k,d.verifierSlots k numbered.1 numbered.2⟩

def verifierRow (d : Description) : List Instance :=
  [Kind.type,.attr,.prop,.successor,.region].flatMap d.verifierInstances

theorem verifierTables_entries (d : Description) (k : Kind) :
    (d.verifierTables.registry k).entries =
      (UnitNames.ofSource d.sourceId d.options).entries k 1 (d.verified k) := by
  change ((session d.sourceId d.options [.collect d.operations]).registry k).entries = _
  rw [session_entries]
  simp only [List.flatMap_cons,List.flatMap_nil,List.append_nil,Call.offers,Operation.select_offers]
  rfl

theorem entry_verifier (d : Description) (k : Kind) (c : Constraint) (ordinal : Nat) :
    (⟨c,(UnitNames.ofSource d.sourceId d.options).mint k ordinal⟩ : Entry).verifier k =
      ⟨.verifier k,d.verifierSlots k c ordinal⟩ :=
  Entry.verifierIn_agree _ k (verifierContext_agrees k)

theorem verifierTables_verifiers (d : Description) : d.verifierTables.verifiers = d.verifierRow := by
  rw [Tables.verifiers_each,verifierRow,Kind.all]
  congr 1
  funext k
  rw [verifierTables_entries,UnitNames.entries,List.map_map,verifierInstances]
  congr 1
  funext numbered
  exact d.entry_verifier k numbered.1 numbered.2

end Description

def twoNumbers : Description := {
  source := some "Numbers.td"
  operations := [
    {name := "AddOp",operands := [⟨"lhs",some numberType⟩,⟨"rhs",some numberType⟩]},
    {name := "NegOp",results := [⟨"result",some numberType⟩]}]}

end SharedVerifiers
