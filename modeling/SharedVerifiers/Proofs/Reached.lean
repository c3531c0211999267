import SharedVerifiers.Proofs.Collecting
import SharedVerifiers.Proofs.Gathered
namespace SharedVerifiers

inductive Batch where
  | operations (ops : List Operation)
  | patterns (leaves : List Leaf)
deriving DecidableEq,Repr

inductive Step where
  | constraint (k : Kind) (c : Constraint)
  | batch (b : Batch)
deriving DecidableEq,Repr

namespace Batch

def after (t : Tables) : Batch → Tables
  | .operations ops => t.collectOperations ops
  | .patterns leaves => t.collectLeaves leaves

def offers : Batch → List (Kind × Constraint)
  | .operations ops => Operation.offers ops
  | .patterns leaves => Leaf.offers leaves

theorem after_offers (t : Tables) (b : Batch) : b.after t = t.collectAll b.offers := by
  cases b <;> rfl

end Batch

namespace Step

def after (t : Tables) : Step → Tables
  | .constraint k c => (t.collect k c).1
  | .batch b => b.after t

def offers : Step → List (Kind × Constraint)
  | .constraint k c => [(k,c)]
  | .batch b => b.offers

theorem after_offers (t : Tables) (step : Step) : step.after t = t.collectAll step.offers := by
  cases step with
  | constraint k c => rfl
  | batch b => exact b.after_offers t

end Step

def reached (source : String) (options : Options) (steps : List Step) : Tables :=
  steps.foldl Step.after (Tables.ofSource source options)

theorem reached_gathered (source : String) (options : Options) (steps : List Step) :
    reached source options steps = gathered source options (steps.flatMap Step.offers) :=
  Tables.foldl_offers Step.after_offers _ steps

-- Within a unit a name stands for one kind and one identity, whatever was
-- collected, in which way and how often.
theorem reached_names_exact (source : String) (options : Options) (steps : List Step) :
    ((Kind.all.flatMap fun k => ((reached source options steps).registry k).entries).map Entry.name).Nodup ∧
    (∀ k i e, ((reached source options steps).registry k).entries[i]? = some e →
      e.name = (UnitNames.ofSource source options).mint k (i + 1)) ∧
    (∀ k, ((reached source options steps).registry k).entries.Pairwise fun first second =>
      ¬ Constraint.SameIdentity first.constraint second.constraint) ∧
    ∀ k c other d name, (reached source options steps).lookup k c = .found name →
      (reached source options steps).lookup other d = .found name → k = other ∧ Constraint.SameIdentity c d := by
  rw [reached_gathered]
  refine ⟨?_,fun k i e place => gathered_entry_named place,?_,?_⟩
  · rw [List.map_flatMap]
    exact gathered_names_distinct _ _ _ Kind.all (by decide)
  · intro k
    have distinct := gathered_known_distinct source options (steps.flatMap Step.offers) k
    rw [Registry.known,Constraint.identities,Registry.constraints,List.map_map] at distinct
    exact List.pairwise_map.mp distinct
  · intro k c other d name left right
    obtain ⟨first,inFirst,sameFirst,rfl⟩ := Tables.lookup_entry left
    obtain ⟨second,inSecond,sameSecond,named⟩ := Tables.lookup_entry right
    obtain ⟨rfl,rfl⟩ := gathered_name_one inFirst inSecond named.symm
    exact ⟨rfl,sameFirst.symm.trans sameSecond⟩

def reworded : Constraint := {numberType with summary := "a number"}

def castSteps : List Step := [
  .batch (.patterns [⟨.operand,reworded⟩]),
  .constraint .attr numberType,
  .batch (.operations [castOperation])]

theorem reached_names_exact_cast :
    (∃ e, ((reached "Cast.td" {} castSteps).registry .attr).entries[0]? = some e ∧
      e.name = "__mlir_ods_local_attr_constraint_Cast1") ∧
    ∃ name, (reached "Cast.td" {} castSteps).lookup .type numberType = .found name ∧
      (reached "Cast.td" {} castSteps).lookup .type reworded = .found name ∧
      Constraint.SameIdentity numberType reworded := by
  obtain ⟨_,named,_,one⟩ := reached_names_exact "Cast.td" {} castSteps
  have offered : castSteps.flatMap Step.offers = [(.type,reworded),(.attr,numberType),(.type,numberType)] := by decide
  constructor
  · have first : ((reached "Cast.td" {} castSteps).registry .attr).entries[0]? =
        some ⟨numberType,"__mlir_ods_local_attr_constraint_Cast1"⟩ := by
      rw [reached_gathered,gathered_entries,offered]
      decide
    exact ⟨_,first,(named _ _ _ first).trans (by decide)⟩
  · have found : ∃ name, (reached "Cast.td" {} castSteps).lookup .type reworded = .found name := by
      rw [reached_gathered,Tables.lookup_known,gathered_known,offered]
      exact ⟨reworded,by decide,rfl⟩
    obtain ⟨name,right⟩ := found
    have same : Constraint.SameIdentity numberType reworded := rfl
    have left := (Tables.lookup_same _ .type same).mpr right
    exact ⟨name,left,right,(one _ _ _ _ _ left right).2⟩

inductive Met (batches : List Batch) : Kind → Constraint → Prop where
  | demanded {ops : List Operation} {op : Operation} {k : Kind} {c : Constraint} (call : .operations ops ∈ batches)
      (member : op ∈ ops) (carried : op.Carries k c) (tested : c.hasPredicate = true)
      (hoisted : c.hoistable k = true) : Met batches k c
  | matched {leaves : List Leaf} {l : Leaf} (call : .patterns leaves ∈ batches) (member : l ∈ leaves)
      (tested : l.constraint.hasPredicate = true) (matched : l.constraint.matchable l.kind = true) :
      Met batches l.kind l.constraint

theorem met_exact (batches : List Batch) (k : Kind) (c : Constraint) :
    Met batches k c ↔ (k,c) ∈ batches.flatMap Batch.offers := by
  rw [List.mem_flatMap]
  constructor
  · intro met
    cases met with
    | demanded call member carried tested hoisted =>
      exact ⟨_,call,(Operation.mem_offers _ k c).mpr ⟨⟨_,member,carried⟩,tested,hoisted⟩⟩
    | matched call member tested matched =>
      exact ⟨_,call,(Leaf.mem_offers _ _ _).mpr ⟨⟨_,member,rfl,rfl⟩,tested,matched⟩⟩
  · rintro ⟨batch,call,offered⟩
    cases batch with
    | operations ops =>
      obtain ⟨⟨op,member,carried⟩,tested,hoisted⟩ := (Operation.mem_offers ops k c).mp offered
      exact .demanded call member carried tested hoisted
    | patterns leaves =>
      obtain ⟨⟨l,member,rfl,rfl⟩,tested,matched⟩ := (Leaf.mem_offers leaves k c).mp offered
      exact .matched call member tested matched

def Constraint.wordless (c : Constraint) : Constraint := {c with summary := ""}
def Operation.TypedValue.wordless (v : Operation.TypedValue) : Operation.TypedValue :=
  ⟨"",v.constraint.map Constraint.wordless⟩
def Operation.Attribute.wordless (a : Operation.Attribute) : Operation.Attribute :=
  ⟨"",a.constraint.wordless,a.derived⟩
def Operation.Part.wordless (p : Operation.Part) : Operation.Part := ⟨"",p.constraint.wordless⟩

def Operation.wordless (op : Operation) : Operation := {
  name := ""
  operands := op.operands.map TypedValue.wordless
  results := op.results.map TypedValue.wordless
  attributes := op.attributes.map Attribute.wordless
  properties := op.properties.map Part.wordless
  successors := op.successors.map Part.wordless
  regions := op.regions.map Part.wordless}

def Leaf.wordless (l : Leaf) : Leaf := {l with constraint := l.constraint.wordless}

def Batch.wordless : Batch → Batch
  | .operations ops => .operations (ops.map Operation.wordless)
  | .patterns leaves => .patterns (leaves.map Leaf.wordless)

def silent (offer : Kind × Constraint) : Kind × Constraint := (offer.1,offer.2.wordless)

theorem Operation.constraints_wordless (op : Operation) : op.wordless.constraints = op.constraints.map silent := by
  simp only [constraints,wordless,List.map_append,List.map_map,List.filterMap_map,List.map_filterMap,
    List.filter_map,Function.comp_def,silent,TypedValue.wordless,Attribute.wordless,Part.wordless,Option.map_map]

theorem sharedByVerifiers_silent (offer : Kind × Constraint) :
    sharedByVerifiers (silent offer) = sharedByVerifiers offer := rfl

theorem sharedByMatchers_silent (offer : Kind × Constraint) :
    sharedByMatchers (silent offer) = sharedByMatchers offer := rfl

-- Neither rule reads a word, so both let the same in with words and without.
theorem Batch.offers_wordless (b : Batch) : b.wordless.offers = b.offers.map silent := by
  cases b with
  | operations ops =>
    have brought : (ops.map Operation.wordless).flatMap Operation.constraints =
        (ops.flatMap Operation.constraints).map silent := by
      simp only [List.flatMap_map,Operation.constraints_wordless,List.map_flatMap]
    simp only [wordless,offers,Operation.offers,brought,List.filter_map,Function.comp_def,sharedByVerifiers_silent]
  | patterns leaves =>
    have brought : (leaves.map Leaf.wordless).map (fun l => (l.kind,l.constraint)) =
        (leaves.map fun l => (l.kind,l.constraint)).map silent := by
      simp only [List.map_map,Function.comp_def]
      rfl
    simp only [wordless,offers,Leaf.offers,brought,List.filter_map,Function.comp_def,sharedByMatchers_silent]

theorem offers_known_silent (offers : List (Kind × Constraint)) (k : Kind) (asked : Identity) :
    (∃ c, (k,c) ∈ offers.map silent ∧ c.identity = asked) ↔ ∃ c, (k,c) ∈ offers ∧ c.identity = asked := by
  constructor
  · rintro ⟨c,listed,same⟩
    obtain ⟨⟨kind,met⟩,offered,shown⟩ := List.mem_map.mp listed
    obtain ⟨rfl,rfl⟩ := Prod.mk.inj shown
    exact ⟨met,offered,same⟩
  · rintro ⟨c,offered,same⟩
    exact ⟨c.wordless,List.mem_map.mpr ⟨(k,c),offered,rfl⟩,same⟩

theorem met_wordless (batches : List Batch) (k : Kind) (asked : Identity) :
    (∃ met, Met (batches.map Batch.wordless) k met ∧ met.identity = asked) ↔
      ∃ met, Met batches k met ∧ met.identity = asked := by
  simp only [met_exact,List.flatMap_map,Batch.offers_wordless]
  rw [← List.map_flatMap]
  exact offers_known_silent _ k asked

theorem reached_found (source : String) (options : Options) (batches : List Batch) (k : Kind) (c : Constraint) :
    (∃ name, (reached source options (batches.map Step.batch)).lookup k c = .found name) ↔
      ∃ met, Met batches k met ∧ Constraint.SameIdentity met c := by
  rw [reached_gathered,Tables.lookup_known,gathered_known,List.flatMap_map]
  simp only [met_exact]
  rfl

-- A lookup finds what was met, in whatever words, and nothing else. What was
-- not met may have stayed inline or is taken for a mistake, as its kind says.
theorem reached_lookup_exact (source : String) (options : Options) (batches : List Batch) (k : Kind) (c : Constraint) :
    ((∃ name, (reached source options (batches.map Step.batch)).lookup k c = .found name) ↔
      ∃ met, Met batches k met ∧ Constraint.SameIdentity met c) ∧
    (k = .attr ∨ k = .prop → ((reached source options (batches.map Step.batch)).lookup k c = .leftInline ↔
      ¬ ∃ met, Met batches k met ∧ Constraint.SameIdentity met c)) ∧
    (k ≠ .attr ∧ k ≠ .prop → ((reached source options (batches.map Step.batch)).lookup k c = .uncollected k c ↔
      ¬ ∃ met, Met batches k met ∧ Constraint.SameIdentity met c)) ∧
    ∀ (others : List Batch) (other : Constraint),
      others.map Batch.wordless = batches.map Batch.wordless → other.wordless = c.wordless →
      ((∃ name, (reached source options (others.map Step.batch)).lookup k other = .found name) ↔
        ∃ name, (reached source options (batches.map Step.batch)).lookup k c = .found name) := by
  have found := reached_found source options batches k c
  refine ⟨found,?_,?_,?_⟩
  · intro spared
    rw [Tables.lookup_inline _ _ spared,found]
  · intro demanded
    rw [Tables.lookup_missed _ _ demanded,found]
  · intro others other alike same
    have identity : other.identity = c.identity := by
      change other.wordless.identity = c.wordless.identity
      rw [same]
    rw [reached_found,found]
    simp only [Constraint.SameIdentity,identity]
    rw [← met_wordless others,alike,met_wordless batches]

def renamedCast : Operation :=
  {name := "ConvertOp",operands := [⟨"from",some siblingType⟩],results := [⟨"to",some reworded⟩]}

theorem reached_lookup_exact_cast :
    (∃ name, (reached "Cast.td" {} [.batch (.operations [castOperation])]).lookup .type numberType = .found name) ∧
    (∃ name, (reached "Cast.td" {} [.batch (.operations [renamedCast])]).lookup .type reworded = .found name) ∧
    (reached "Cast.td" {} [.batch (.operations [castOperation])]).lookup .attr numberType = .leftInline ∧
    (reached "Cast.td" {} [.batch (.operations [castOperation])]).lookup .type siblingType =
      .uncollected .type siblingType := by
  have met : ∀ k c, Met [.operations [castOperation]] k c ↔ k = .type ∧ c = numberType := by
    intro k c
    have offered : [Batch.operations [castOperation]].flatMap Batch.offers = [(.type,numberType)] := by decide
    rw [met_exact,offered,List.mem_singleton,Prod.mk.injEq]
  obtain ⟨found,_,_,renamed⟩ := reached_lookup_exact "Cast.td" {} [.operations [castOperation]] .type numberType
  obtain ⟨_,inline,_⟩ := reached_lookup_exact "Cast.td" {} [.operations [castOperation]] .attr numberType
  obtain ⟨_,_,missed,_⟩ := reached_lookup_exact "Cast.td" {} [.operations [castOperation]] .type siblingType
  have before := found.mpr ⟨numberType,(met _ _).mpr ⟨rfl,rfl⟩,rfl⟩
  refine ⟨before,(renamed [.operations [renamedCast]] reworded (by decide) (by decide)).mpr before,?_,?_⟩
  · refine (inline (by decide)).mpr ?_
    rintro ⟨other,brought,_⟩
    cases ((met _ _).mp brought).1
  · refine (missed (by decide)).mpr ?_
    rintro ⟨other,brought,same⟩
    obtain ⟨_,rfl⟩ := (met _ _).mp brought
    exact absurd same (by decide)

end SharedVerifiers
