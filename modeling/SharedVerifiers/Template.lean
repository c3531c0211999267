import SharedVerifiers.Constraint
namespace SharedVerifiers

structure Slots where
  name : String := ""
  condition : String := ""
  summary : String := ""
  param : String := ""
  generic : Bool := false
deriving DecidableEq,Repr

inductive Slot where
  | name | condition | summary | param
deriving DecidableEq,Repr

def Slot.word : Slot → String
  | .name => "name"
  | .condition => "condition"
  | .summary => "summary"
  | .param => "param"

def Slots.get (s : Slots) : Slot → String
  | .name => s.name
  | .condition => s.condition
  | .summary => s.summary
  | .param => s.param

namespace Template

inductive Part where
  | text (words : String)
  | slot (s : Slot)
  | ifGeneric (words : String)
deriving DecidableEq,Repr

def Part.source : Part → String
  | .text words => words
  | .slot s => "\x7b\x7b" ++ s.word ++ "\x7d\x7d"
  | .ifGeneric words => "\x7b\x7b#if generic\x7d\x7d" ++ words ++ "\x7b\x7b/if\x7d\x7d"

def Part.render (slots : Slots) : Part → String
  | .text words => words
  | .slot s => slots.get s
  | .ifGeneric words => if slots.generic then words else ""

end Template

inductive Template where
  | verifier (k : Kind)
  | matcher
deriving DecidableEq,Repr

namespace Template

def all : List Template := Kind.all.map .verifier ++ [.matcher]

def name : Template → String
  | .verifier k => k.name ++ "_constraint"
  | .matcher => "pattern_constraint"

def ofName? (word : String) : Option Template := all.find? fun t => t.name == word

def kinds (t : Template) : List Kind := Kind.all.filter fun k => Template.verifier k = t

def typeParts : List Part := [
  .text "\nstatic ::llvm::LogicalResult ",.slot .name,
  .text "(\n    ::mlir::Operation *op, ::mlir::Type type, ::llvm::StringRef valueKind,\n    unsigned valueIndex) \x7b\n  if (!(",
  .slot .condition,
  .text ")) \x7b\n    return op->emitOpError(valueKind) << \" #\" << valueIndex\n        << \" must be ",
  .slot .summary,
  .text ", but got \" << type;\n  \x7d\n  return ::mlir::success();\n\x7d\n"]

def attrParts : List Part := [
  .text "\nstatic ::llvm::LogicalResult ",.slot .name,
  .text "(\n    ::mlir::Attribute attr, ::llvm::StringRef attrName, llvm::function_ref<::mlir::InFlightDiagnostic()> emitError) \x7b\n  if (attr && !(",
  .slot .condition,
  .text "))\n    return emitError() << \"attribute '\" << attrName\n        << \"' failed to satisfy constraint: ",
  .slot .summary,
  .text "\";\n  return ::mlir::success();\n\x7d\nstatic ::llvm::LogicalResult ",
  .slot .name,
  .text "(\n    ::mlir::Operation *op, ::mlir::Attribute attr, ::llvm::StringRef attrName) \x7b\n  return ",
  .slot .name,
  .text "(attr, attrName, [op]() \x7b\n    return op->emitOpError();\n  \x7d);\n\x7d\n"]

def propParts : List Part := [
  .text "\nstatic ::llvm::LogicalResult ",.slot .name,.text "(\n    ",.slot .param,
  .text " prop, ::llvm::StringRef propName, llvm::function_ref<::mlir::InFlightDiagnostic()> emitError) \x7b\n  if (!(",
  .slot .condition,
  .text "))\n    return emitError() << \"property '\" << propName\n        << \"' failed to satisfy constraint: ",
  .slot .summary,
  .text "\";\n  return ::mlir::success();\n\x7d\nstatic ::llvm::LogicalResult ",
  .slot .name,.text "(\n    ::mlir::Operation *op, ",.slot .param,
  .text " prop, ::llvm::StringRef propName) \x7b\n  return ",
  .slot .name,
  .text "(prop, propName, [op]() \x7b\n    return op->emitOpError();\n  \x7d);\n\x7d\n"]

def successorParts : List Part := [
  .text "\nstatic ::llvm::LogicalResult ",.slot .name,
  .text "(\n    ::mlir::Operation *op, ::mlir::Block *successor,\n    ::llvm::StringRef successorName, unsigned successorIndex) \x7b\n  if (!(",
  .slot .condition,
  .text ")) \x7b\n    return op->emitOpError(\"successor #\") << successorIndex << \" ('\"\n        << successorName << \")' failed to verify constraint: ",
  .slot .summary,
  .text "\";\n  \x7d\n  return ::mlir::success();\n\x7d\n"]

def regionParts : List Part := [
  .text "\nstatic ::llvm::LogicalResult ",.slot .name,
  .text "(\n    ::mlir::Operation *op, ::mlir::Region &region, ::llvm::StringRef regionName,\n    unsigned regionIndex) \x7b\n  if (!(",
  .slot .condition,
  .text ")) \x7b\n    return op->emitOpError(\"region #\") << regionIndex\n        << (regionName.empty() ? \" \" : \" ('\" + regionName + \"') \")\n        << \"failed to verify constraint: ",
  .slot .summary,
  .text "\";\n  \x7d\n  return ::mlir::success();\n\x7d\n"]

def matcherParts : List Part := [
  .ifGeneric "template <typename T>",
  .text "\nstatic ::llvm::LogicalResult ",.slot .name,
  .text "(\n    ::mlir::PatternRewriter &rewriter, ::mlir::Operation *op, ",.slot .param,
  .text ",\n    ::llvm::StringRef failureStr) \x7b\n  if (!(",
  .slot .condition,
  .text ")) \x7b\n    return rewriter.notifyMatchFailure(op, [&](::mlir::Diagnostic &diag) \x7b\n      diag << failureStr << \": ",
  .slot .summary,
  .text "\";\n    \x7d);\n  \x7d\n  return ::mlir::success();\n\x7d\n"]

def parts : Template → List Part
  | .verifier .type => typeParts
  | .verifier .attr => attrParts
  | .verifier .prop => propParts
  | .verifier .successor => successorParts
  | .verifier .region => regionParts
  | .matcher => matcherParts

def source (t : Template) : String := String.join (t.parts.map Part.source)

def render (t : Template) (slots : Slots) : String := String.join (t.parts.map (Part.render slots))

end Template

end SharedVerifiers
