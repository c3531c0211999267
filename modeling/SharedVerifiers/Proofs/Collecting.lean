import SharedVerifiers.Collection
import SharedVerifiers.Proofs.Interning
import SharedVerifiers.Proofs.Placeholders
namespace SharedVerifiers
open Condition

namespace Operation

inductive Carries (op : Operation) : Kind → Constraint → Prop where
  | operand {v : TypedValue} {c : Constraint} (member : v ∈ op.operands) (given : v.constraint = some c) :
      Carries op .type c
  | result {v : TypedValue} {c : Constraint} (member : v ∈ op.results) (given : v.constraint = some c) :
      Carries op .type c
  | stored {a : Attribute} (member : a ∈ op.attributes) (checked : a.derived = false) :
      Carries op .attr a.constraint
  | property {p : Part} (member : p ∈ op.properties) : Carries op .prop p.constraint
  | successor {p : Part} (member : p ∈ op.successors) : Carries op .successor p.constraint
  | region {p : Part} (member : p ∈ op.regions) : Carries op .region p.constraint

def row (op : Operation) : Kind → List Constraint
  | .type => op.operands.filterMap TypedValue.constraint ++ op.results.filterMap TypedValue.constraint
  | .attr => (op.attributes.filter fun a => !a.derived).map Attribute.constraint
  | .prop => op.properties.map Part.constraint
  | .successor => op.successors.map Part.constraint
  | .region => op.regions.map Part.constraint

theorem select_constraints (op : Operation) (k : Kind) : k.select op.constraints = op.row k := by
  have tagged : op.constraints =
      (op.row .type).map (Kind.type,·) ++ (op.row .attr).map (Kind.attr,·) ++ (op.row .prop).map (Kind.prop,·) ++
      (op.row .successor).map (Kind.successor,·) ++ (op.row .region).map (Kind.region,·) := by
    simp [constraints,row,List.map_filterMap,Function.comp_def]
  rw [tagged]
  simp only [Kind.select_append,Kind.select_tagged]
  cases k <;> simp

theorem carries_exact (op : Operation) (k : Kind) (c : Constraint) : op.Carries k c ↔ c ∈ op.row k := by
  constructor
  · intro carried
    cases carried with
    | operand member given => exact List.mem_append_left _ (List.mem_filterMap.mpr ⟨_,member,given⟩)
    | result member given => exact List.mem_append_right _ (List.mem_filterMap.mpr ⟨_,member,given⟩)
    | stored member checked =>
      exact List.mem_map_of_mem (List.mem_filter.mpr ⟨member,by simp [checked]⟩)
    | property member => exact List.mem_map_of_mem member
    | successor member => exact List.mem_map_of_mem member
    | region member => exact List.mem_map_of_mem member
  · intro listed
    cases k with
    | type =>
      rcases List.mem_append.mp listed with left | right
      · obtain ⟨v,member,given⟩ := List.mem_filterMap.mp left
        exact .operand member given
      · obtain ⟨v,member,given⟩ := List.mem_filterMap.mp right
        exact .result member given
    | attr =>
      obtain ⟨a,kept,rfl⟩ := List.mem_map.mp listed
      obtain ⟨member,checked⟩ := List.mem_filter.mp kept
      exact .stored member (by simpa using checked)
    | prop =>
      obtain ⟨p,member,rfl⟩ := List.mem_map.mp listed
      exact .property member
    | successor =>
      obtain ⟨p,member,rfl⟩ := List.mem_map.mp listed
      exact .successor member
    | region =>
      obtain ⟨p,member,rfl⟩ := List.mem_map.mp listed
      exact .region member

end Operation

theorem Operation.select_offers (ops : List Operation) (k : Kind) :
    k.select (Operation.offers ops) =
      (ops.flatMap fun op => op.row k).filter fun c => c.hasPredicate && c.hoistable k := by
  unfold Operation.offers
  rw [Kind.select_filter]
  have rows : k.select (ops.flatMap Operation.constraints) = ops.flatMap fun op => op.row k := by
    induction ops with
    | nil => rfl
    | cons op rest ih =>
      rw [List.flatMap_cons,List.flatMap_cons,Kind.select_append,op.select_constraints,ih]
  rw [rows]
  rfl

theorem Operation.mem_offers (ops : List Operation) (k : Kind) (c : Constraint) :
    (k,c) ∈ Operation.offers ops ↔
      (∃ op ∈ ops, op.Carries k c) ∧ c.hasPredicate = true ∧ c.hoistable k = true := by
  rw [← Kind.mem_select,select_offers]
  simp only [List.mem_filter,List.mem_flatMap,carries_exact,Bool.and_eq_true]

theorem Leaf.mem_offers (leaves : List Leaf) (k : Kind) (c : Constraint) :
    (k,c) ∈ Leaf.offers leaves ↔
      (∃ l ∈ leaves, l.kind = k ∧ l.constraint = c) ∧ c.hasPredicate = true ∧ c.matchable k = true := by
  simp [Leaf.offers,sharedByMatchers]

namespace Tables

theorem collectOperations_known (t : Tables) (ops : List Operation) (k : Kind) (asked : Identity) :
    asked ∈ ((t.collectOperations ops).registry k).known ↔
      asked ∈ (t.registry k).known ∨
        ∃ c, ((∃ op ∈ ops, op.Carries k c) ∧ c.hasPredicate = true ∧ c.hoistable k = true) ∧ c.identity = asked := by
  unfold collectOperations
  simp only [collectAll_known,Operation.mem_offers]

theorem lookup_missed (t : Tables) {k : Kind} (c : Constraint) (demanded : k ≠ .attr ∧ k ≠ .prop) :
    t.lookup k c = .uncollected k c ↔ ¬ ∃ name, t.lookup k c = .found name := by
  unfold lookup
  cases (t.registry k).get? c with
  | some name => simp
  | none => cases k <;> simp_all

theorem lookup_inline (t : Tables) {k : Kind} (c : Constraint) (spared : k = .attr ∨ k = .prop) :
    t.lookup k c = .leftInline ↔ ¬ ∃ name, t.lookup k c = .found name := by
  unfold lookup
  cases (t.registry k).get? c with
  | some name => simp
  | none => cases k <;> simp_all

theorem lookup_collected (t : Tables) (ops : List Operation) {k : Kind} {c : Constraint}
    (untyped : k ≠ .prop) (carried : ∃ op ∈ ops, op.Carries k c) (tested : c.hasPredicate = true) :
    (∃ name, (t.collectOperations ops).lookup k c = .found name) ↔
      c.StandsAlone ∨ ∃ name, t.lookup k c = .found name := by
  rw [lookup_known,lookup_known,collectOperations_known]
  constructor
  · rintro (before | ⟨other,⟨_,_,hoisted⟩,same⟩)
    · exact .inr before
    · have alone := Constraint.hoistable_standsAlone hoisted
      exact .inl ((Constraint.SameIdentity.standsAlone same).mp alone)
  · rintro (alone | before)
    · have hoisted := (c.hoistable_exact untyped).mpr alone
      exact .inr ⟨c,⟨carried,tested,hoisted⟩,rfl⟩
    · exact .inl before

-- Having a predicate is not enough to be collected: what a condition says about
-- anything but its value and the operation keeps it where it is.
theorem collected_lookup_exact (t : Tables) (ops : List Operation) {k : Kind} {c : Constraint}
    (demanded : k ≠ .attr ∧ k ≠ .prop) (carried : ∃ op ∈ ops, op.Carries k c)
    (tested : c.hasPredicate = true) :
    ((∃ name, (t.collectOperations ops).lookup k c = .found name) ↔
      c.StandsAlone ∨ ∃ name, t.lookup k c = .found name) ∧
    ((t.collectOperations ops).lookup k c = .uncollected k c ↔
      ¬ c.StandsAlone ∧ t.lookup k c = .uncollected k c) := by
  have found := t.lookup_collected ops demanded.2 carried tested
  refine ⟨found,?_⟩
  rw [lookup_missed _ _ demanded,lookup_missed _ _ demanded,found,not_or]

end Tables

def numberType : Constraint := {condition := "$_self.isIntOrFloat()",summary := "an int or float"}
def siblingType : Constraint := {condition := "$_self == $out.getType()",summary := "the type of out"}

def castOperation : Operation :=
  {name := "CastOp",operands := [⟨"in",some siblingType⟩],results := [⟨"out",some numberType⟩]}

theorem collected_lookup_cast :
    (∃ op ∈ [castOperation], op.Carries .type numberType) ∧ numberType.hasPredicate = true ∧
      ∃ name, ((Tables.ofSource "Cast.td" {}).collectOperations [castOperation]).lookup .type numberType = .found name := by
  have carried : ∃ op ∈ [castOperation], op.Carries .type numberType :=
    ⟨_,List.mem_singleton.mpr rfl,.result (List.mem_singleton.mpr rfl) rfl⟩
  have answers := Tables.collected_lookup_exact (.ofSource "Cast.td" {}) [castOperation] (by decide) carried (by decide)
  exact ⟨carried,by decide,answers.1.mpr (.inl (by decide))⟩

-- The operand has a predicate and was there to be collected, and still its
-- lookup is answered as a mistake of the caller.
theorem carried_uncollected :
    (∃ op ∈ [castOperation], op.Carries .type siblingType) ∧ siblingType.hasPredicate = true ∧
      ((Tables.ofSource "Cast.td" {}).collectOperations [castOperation]).lookup .type siblingType =
        .uncollected .type siblingType := by
  have carried : ∃ op ∈ [castOperation], op.Carries .type siblingType :=
    ⟨_,List.mem_singleton.mpr rfl,.operand (List.mem_singleton.mpr rfl) rfl⟩
  refine ⟨carried,by decide,(Tables.lookup_missed _ _ (by decide)).mpr ?_⟩
  rw [Tables.lookup_collected _ _ (by decide) carried (by decide)]
  rintro (alone | ⟨name,before⟩)
  · exact absurd alone (by decide)
  · obtain ⟨_,collected,_⟩ := Tables.lookup_entry before
    cases collected

end SharedVerifiers
