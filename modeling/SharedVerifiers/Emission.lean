import SharedVerifiers.Collection
import SharedVerifiers.Description
import SharedVerifiers.Literal
import SharedVerifiers.Meter
import SharedVerifiers.Report
import SharedVerifiers.Template
namespace SharedVerifiers
open Condition

structure Instance where
  template : Template
  slots : Slots
deriving DecidableEq,Repr

def Instance.text (i : Instance) : String := i.template.render i.slots

namespace Entry

def slots (e : Entry) (b : Bindings) (param : String) (generic : Bool) : Slots := {
  name := e.name
  condition := (resolve e.constraint.condition b).text
  summary := Literal.escape e.constraint.summary
  param := param
  generic := generic}

def verifierIn (e : Entry) (b : Bindings) (k : Kind) : Instance :=
  ⟨.verifier k,e.slots b (if k = .prop then e.constraint.interface.getD "" else "") false⟩

def matcherParam (e : Entry) : Kind → String × Bool
  | .type => ("::mlir::Type type",false)
  | .attr => ("::mlir::Attribute attr",false)
  | _ => match e.constraint.interface with
    | some interface => (interface ++ " prop",false)
    | none => ("T prop",true)

def matcherIn (e : Entry) (b : Bindings) (k : Kind) : Instance :=
  ⟨.matcher,e.slots b (e.matcherParam k).1 (e.matcherParam k).2⟩

end Entry

def verifierContext : Bindings := Bindings.empty.bind opName operationExpression
def matcherContext : Bindings := verifierContext.bind builderName builderExpression

def Entry.verifier (e : Entry) (k : Kind) : Instance := e.verifierIn (verifierContext.bind selfName k.name) k
def Entry.matcher (e : Entry) (k : Kind) : Instance := e.matcherIn (matcherContext.bind selfName k.name) k

def matcherKinds : List Kind := [.type,.attr,.prop]

-- There is a report exactly when everything arrived and the sink was flushed.
structure Emission (σ : Type) where
  sink : σ
  taken : List UInt8
  outcome : Except WriteFailure Report

namespace Tables
variable {σ : Type}

-- The bindings go along from kind to kind, and only the value under test is
-- bound anew.
def instances (t : Tables) (make : Entry → Bindings → Kind → Instance) (b : Bindings) : List Kind → List Instance
  | [] => []
  | k :: rest =>
    let own := b.bind selfName k.name
    (t.registry k).entries.map (fun e => make e own k) ++ t.instances make own rest

def verifiers (t : Tables) : List Instance := t.instances Entry.verifierIn verifierContext Kind.all

def matchers (t : Tables) : List Instance := t.instances Entry.matcherIn matcherContext matcherKinds

def counts (t : Tables) (kinds : List Kind) : Counts :=
  Counts.ofList (kinds.map fun k => (k,(t.registry k).size))

def emit (t : Tables) (entryPoint : EntryPoint) (instances : List Instance) (counts : Counts)
    (k : Sink σ) (s : σ) : Emission σ :=
  let stretch := k.metered.deliver (s,{}) (instances.map fun i => Text.bytes i.text)
  let (after,meter) := stretch.sink
  match stretch.failure with
  | some failure => ⟨after,stretch.taken,.error failure⟩
  | none => ⟨after,stretch.taken,.ok {
      label := t.label
      entryPoint := entryPoint
      instances := counts
      bytes := meter.bytes
      outputHash := Report.hashText meter.digest.finish}⟩

def emitVerifiers (t : Tables) (k : Sink σ) (s : σ) : Emission σ :=
  t.emit .op t.verifiers (t.counts Kind.all) k s

-- The leaves stay collected whatever the sink does.
def emitMatchers (t : Tables) (leaves : List Leaf) (k : Sink σ) (s : σ) : Tables × Emission σ :=
  let t := t.collectLeaves leaves
  (t,t.emit .pattern t.matchers (t.counts matcherKinds) k s)

end Tables

namespace Description
variable {σ : Type}

def emptyTables (d : Description) : Tables := .ofSource d.sourceId d.options

def verifierTables (d : Description) : Tables := d.emptyTables.collectOperations d.operations

def emitVerifiers (d : Description) (k : Sink σ) (s : σ) : Emission σ := d.verifierTables.emitVerifiers k s

def emitMatchers (d : Description) (k : Sink σ) (s : σ) : Emission σ :=
  (d.emptyTables.emitMatchers d.leaves k s).2

end Description

end SharedVerifiers
