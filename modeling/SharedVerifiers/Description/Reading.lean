import SharedVerifiers.Description
import SharedVerifiers.Document.TaggedUnion
import SharedVerifiers.Report
namespace SharedVerifiers
open Document

def Constraint.record : Record Constraint where
  title := "struct Constraint"
  blank := {}
  fields := [
    .may "condition" readText fun x c => {c with condition := x},
    .may "summary" readText fun x c => {c with summary := x},
    .may "interface_type" (readOption readText) fun x c => {c with interfaceType := x}]

def Options.record : Record Options where
  title := "struct EmitOptions"
  blank := {}
  fields := [
    .may "name_prefix" readText fun x o => {o with namePrefix := x},
    .may "tag" readText fun x o => {o with tag := x},
    .may "source_extension" readText fun x o => {o with sourceExtension := x}]

def Operation.TypedValue.record : Record Operation.TypedValue where
  title := "struct NamedValue"
  blank := ⟨"",none⟩
  fields := [
    .must "name" readText fun x v => {v with name := x},
    .may "constraint" (readOption Constraint.record.read) fun x v => {v with constraint := x}]

def Operation.Attribute.record : Record Operation.Attribute where
  title := "struct NamedAttribute"
  blank := ⟨"",{},false⟩
  fields := [
    .must "name" readText fun x a => {a with name := x},
    .must "constraint" Constraint.record.read fun x a => {a with constraint := x},
    .may "derived" readFlag fun x a => {a with derived := x}]

def Operation.Part.record (title : String) : Record Operation.Part where
  title := title
  blank := ⟨"",{}⟩
  fields := [
    .must "name" readText fun x p => {p with name := x},
    .must "constraint" Constraint.record.read fun x p => {p with constraint := x}]

def Operation.propertyRecord : Record Operation.Part := Operation.Part.record "struct NamedProperty"
def Operation.successorRecord : Record Operation.Part := Operation.Part.record "struct NamedSuccessor"
def Operation.regionRecord : Record Operation.Part := Operation.Part.record "struct NamedRegion"

def Operation.record : Record Operation where
  title := "struct OpDef"
  blank := {name := ""}
  fields := [
    .must "name" readText fun x o => {o with name := x},
    .may "operands" (readList Operation.TypedValue.record.read) fun x o => {o with operands := x},
    .may "results" (readList Operation.TypedValue.record.read) fun x o => {o with results := x},
    .may "attributes" (readList Operation.Attribute.record.read) fun x o => {o with attributes := x},
    .may "properties" (readList Operation.propertyRecord.read) fun x o => {o with properties := x},
    .may "successors" (readList Operation.successorRecord.read) fun x o => {o with successors := x},
    .may "regions" (readList Operation.regionRecord.read) fun x o => {o with regions := x}]

def Leaf.union : TaggedUnion Role where
  title := "PatternLeaf"
  tag := "kind"
  choices := Role.all
  name := Role.name

def Leaf.variant (role : Role) : Record Leaf where
  title := match role with
    | .operand => "struct variant PatternLeaf::Operand"
    | .attr => "struct variant PatternLeaf::Attr"
    | .prop => "struct variant PatternLeaf::Prop"
  blank := ⟨role,{}⟩
  fields := [.must "constraint" Constraint.record.read fun x l => {l with constraint := x}]

def Leaf.read : Reader Leaf := fun r n => do
  let (role,content) ← Leaf.union.read r n
  (Leaf.variant role).read {r with kept := true} content

def Description.record : Record Description where
  title := "struct DescriptionFile"
  blank := {}
  fields := [
    .may "source" (readOption readText) fun x d => {d with source := x},
    .may "options" Options.record.read fun x d => {d with options := x},
    .may "ops" (readList Operation.record.read) fun x d => {d with operations := x},
    .may "patterns" (readList Leaf.read) fun x d => {d with leaves := x}]

def Kind.read : Reader Kind := readChoice Kind.all Kind.name
def EntryPoint.read : Reader EntryPoint := readChoice EntryPoint.all EntryPoint.name

-- A kind that is given twice keeps its last number.
def Counts.readEntries (r : Reading) (c : Counts) : List (Node × Node) → Outcome Counts
  | [] => return c
  | (key,n) :: rest => match key.words? with
    | none => refuse .malformed
    | some words => do
      let k ← chooseWord Kind.all Kind.name words
      let count ← readCount "usize" r n
      readEntries r (c.set k count) rest

def Counts.read : Reader Counts := fun r n => r.locate do
  let n ← r.follow n
  match n.bare with
  | .map entries closed =>
    let c ← Counts.readEntries r.deeper {} entries
    if closed then return c else refuse .malformed
  | _ => n.refuseFor .map

def Report.record : Record Report where
  title := "struct EmissionReport"
  blank := ⟨"",.op,{},0,""⟩
  fields := [
    .must "label" readText fun x t => {t with label := x},
    .must "entry_point" EntryPoint.read fun x t => {t with entryPoint := x},
    .must "instances" Counts.read fun x t => {t with instances := x},
    .must "bytes" (readCount "u64") fun x t => {t with bytes := x},
    .must "output_hash" readText fun x t => {t with outputHash := x}]

end SharedVerifiers
