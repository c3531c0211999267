import Mathlib.Data.List.Flatten
import SharedVerifiers.Proofs.Reached
import SharedVerifiers.Proofs.Verifiers
namespace SharedVerifiers

namespace Tables

theorem withRegistry_registry (t : Tables) (k : Kind) : t.withRegistry k (t.registry k) = t := by
  cases k <;> rfl

theorem collect_known {t : Tables} {k : Kind} {c : Constraint} (known : c.identity ∈ (t.registry k).known) :
    (t.collect k c).1 = t := by
  rcases (t.registry k).intern_cases t.names c with ⟨_,same⟩ | ⟨unknown,_⟩
  · change t.withRegistry k ((t.registry k).intern t.names c).1 = t
    rw [same,withRegistry_registry]
  · exact absurd known unknown

def Covers (t : Tables) (offers : List (Kind × Constraint)) : Prop :=
  ∀ offer ∈ offers, offer.2.identity ∈ (t.registry offer.1).known

theorem collectAll_covers (t : Tables) (offers : List (Kind × Constraint)) : (t.collectAll offers).Covers offers := by
  intro offer offered
  rw [collectAll_known]
  exact .inr ⟨offer.2,offered,rfl⟩

namespace Covers
variable {t : Tables} {offers : List (Kind × Constraint)}

theorem later (covered : t.Covers offers) (more : List (Kind × Constraint)) : (t.collectAll more).Covers offers := by
  intro offer offered
  rw [collectAll_known]
  exact .inl (covered offer offered)

theorem absorbed (covered : t.Covers offers) : t.collectAll offers = t := by
  induction offers with
  | nil => rfl
  | cons offer rest ih =>
    have first : (t.collect offer.1 offer.2).1 = t := collect_known (covered offer List.mem_cons_self)
    have behind : t.Covers rest := by
      intro later offered
      exact covered later (List.mem_cons_of_mem _ offered)
    change (t.collect offer.1 offer.2).1.collectAll rest = t
    rw [first]
    exact ih behind

end Covers

theorem verifiers_grow {before after : Tables}
    (grown : ∀ k, (before.registry k).entries <+: (after.registry k).entries) :
    before.verifiers.Sublist after.verifiers := by
  rw [verifiers_each,verifiers_each]
  refine List.Sublist.flatMap_right Kind.all ?_
  intro k _
  exact ((grown k).map _).sublist

end Tables

theorem Step.after_absorbed (t : Tables) (x : Step) (between : List Step) :
    x.after (between.foldl Step.after (x.after t)) = between.foldl Step.after (x.after t) := by
  have covered : (between.foldl Step.after (x.after t)).Covers x.offers := by
    rw [Tables.foldl_offers Step.after_offers,x.after_offers]
    exact (t.collectAll_covers x.offers).later _
  rw [x.after_offers]
  exact covered.absorbed

namespace Description

def withMore (d : Description) (more : List Operation) : Description := {d with operations := d.operations ++ more}

theorem verifierTables_withMore (d : Description) (more : List Operation) :
    (d.withMore more).verifierTables = d.verifierTables.collectOperations more := by
  unfold verifierTables Tables.collectOperations
  rw [← Tables.collectAll_append]
  simp only [withMore,Operation.offers,List.flatMap_append,List.filter_append]
  rfl

end Description

-- A step adds behind what is there; once made it may be made again at any time.
-- Nothing is asked of the tables, so this holds of all that can be reached.
theorem collecting_stable (t : Tables) (x : Step) :
    (∀ k, (t.registry k).entries <+: ((x.after t).registry k).entries) ∧
    (∀ k c name, t.lookup k c = .found name → (x.after t).lookup k c = .found name) ∧
    x.after (x.after t) = x.after t ∧
    (∀ y : Step, x.after (y.after (x.after t)) = y.after (x.after t)) ∧
    (∀ between : List Step,
      x.after (between.foldl Step.after (x.after t)) = between.foldl Step.after (x.after t)) ∧
    ∀ (d : Description) (more : List Operation),
      (∀ k, (d.verifierTables.registry k).entries <+: ((d.withMore more).verifierTables.registry k).entries) ∧
      d.verifierTables.verifiers.Sublist (d.withMore more).verifierTables.verifiers := by
  have appended : ∀ (d : Description) (more : List Operation) (k : Kind),
      (d.verifierTables.registry k).entries <+: ((d.withMore more).verifierTables.registry k).entries := by
    intro d more k
    rw [d.verifierTables_withMore]
    exact d.verifierTables.collectAll_grows _ k
  refine ⟨?_,?_,x.after_absorbed t [],fun y => x.after_absorbed t [y],x.after_absorbed t,?_⟩
  · intro k
    rw [x.after_offers]
    exact t.collectAll_grows _ k
  · intro k c name found
    rw [x.after_offers]
    exact Tables.lookup_grows found _
  · intro d more
    exact ⟨appended d more,Tables.verifiers_grow (appended d more)⟩

def knownNumber : Tables := reached "Cast.td" {} [.constraint .type numberType]

def rewordedStep : Step := .batch (.patterns [⟨.operand,reworded⟩,⟨.attr,numberType⟩])

theorem collecting_stable_cast :
    (∃ name, knownNumber.lookup .type reworded = .found name ∧
      (rewordedStep.after knownNumber).lookup .type reworded = .found name) ∧
    ⟨numberType,"__mlir_ods_local_type_constraint_Cast1"⟩ ∈ ((rewordedStep.after knownNumber).registry .type).entries ∧
    ∀ later : Step, rewordedStep.after (later.after (rewordedStep.after knownNumber)) =
      later.after (rewordedStep.after knownNumber) := by
  obtain ⟨grown,kept,_,absorbed,_⟩ := collecting_stable knownNumber rewordedStep
  have offered : [Step.constraint .type numberType].flatMap Step.offers = [(.type,numberType)] := by decide
  have found : ∃ name, knownNumber.lookup .type reworded = .found name := by
    rw [knownNumber,reached_gathered,Tables.lookup_known,gathered_known,offered]
    exact ⟨numberType,by decide,rfl⟩
  have first : (knownNumber.registry .type).entries = [⟨numberType,"__mlir_ods_local_type_constraint_Cast1"⟩] := by
    rw [knownNumber,reached_gathered,gathered_entries,offered]
    decide
  obtain ⟨name,before⟩ := found
  refine ⟨⟨name,before,kept _ _ _ before⟩,?_,absorbed⟩
  exact (grown .type).subset (by rw [first]; exact List.mem_singleton.mpr rfl)

end SharedVerifiers
