import SharedVerifiers.Description
import SharedVerifiers.Json.Value
import SharedVerifiers.Report
namespace SharedVerifiers
open Json (Value)

def optionalMember (name : String) (text : Option String) : List (String × Value) :=
  match text with
  | some words => [(name,.text words)]
  | none => []

def Constraint.toJson (c : Constraint) : Value :=
  .object ([("condition",.text c.condition),("summary",.text c.summary)] ++
    optionalMember "interface_type" c.interfaceType)

def Options.toJson (o : Options) : Value :=
  .object [("name_prefix",.text o.namePrefix),("tag",.text o.tag),
    ("source_extension",.text o.sourceExtension)]

def Operation.TypedValue.toJson (v : Operation.TypedValue) : Value :=
  .object ([("name",.text v.name)] ++ match v.constraint with
    | some c => [("constraint",c.toJson)]
    | none => [])

def Operation.Attribute.toJson (a : Operation.Attribute) : Value :=
  .object [("name",.text a.name),("constraint",a.constraint.toJson),("derived",.bool a.derived)]

def Operation.Part.toJson (p : Operation.Part) : Value :=
  .object [("name",.text p.name),("constraint",p.constraint.toJson)]

def Operation.toJson (op : Operation) : Value :=
  .object [("name",.text op.name),
    ("operands",.array (op.operands.map Operation.TypedValue.toJson)),
    ("results",.array (op.results.map Operation.TypedValue.toJson)),
    ("attributes",.array (op.attributes.map Operation.Attribute.toJson)),
    ("properties",.array (op.properties.map Operation.Part.toJson)),
    ("successors",.array (op.successors.map Operation.Part.toJson)),
    ("regions",.array (op.regions.map Operation.Part.toJson))]

def Leaf.toJson (l : Leaf) : Value :=
  .object [("kind",.text l.role.name),("constraint",l.constraint.toJson)]

def Description.toJson (d : Description) : Value :=
  .object (optionalMember "source" d.source ++
    [("options",d.options.toJson),
      ("ops",.array (d.operations.map Operation.toJson)),
      ("patterns",.array (d.leaves.map Leaf.toJson))])

def Counts.toJson (c : Counts) : Value :=
  .object (c.toList.map fun (k,n) => (k.name,.natural n))

def Report.toJson (r : Report) : Value :=
  .object [("label",.text r.label),("entry_point",.text r.entryPoint.name),
    ("instances",r.instances.toJson),("bytes",.natural r.bytes),("output_hash",.text r.outputHash)]

end SharedVerifiers
