import Mathlib.Data.List.Infix
import SharedVerifiers.Proofs.Emitted
namespace SharedVerifiers
open Condition

namespace Constraint

theorem SameIdentity.matchable {left right : Constraint} (same : SameIdentity left right) (k : Kind) :
    left.matchable k = right.matchable k := by
  simp only [Constraint.matchable,matcherText,same.condition]

end Constraint

namespace Leaf

def Admitted (k : Kind) (l : Leaf) : Prop :=
  l.kind = k ∧ l.constraint.hasPredicate = true ∧ l.constraint.matchable k = true

-- The leaf in front need not be admitted.
def New (known : List Identity) (front : List Leaf) (l : Leaf) : Prop :=
  l.constraint.identity ∉ known ∧
    ∀ earlier ∈ front, earlier.kind = l.kind → ¬ Constraint.SameIdentity earlier.constraint l.constraint

instance (k : Kind) (l : Leaf) : Decidable (l.Admitted k) :=
  inferInstanceAs (Decidable (_ ∧ _ ∧ _))

instance (known : List Identity) (front : List Leaf) (l : Leaf) : Decidable (l.New known front) :=
  inferInstanceAs (Decidable (_ ∧ ∀ earlier ∈ front, earlier.kind = l.kind → ¬ _))

def additions (k : Kind) (known : List Identity) (leaves : List Leaf) : List Constraint :=
  ((leaves.zip leaves.inits).filter fun placed => placed.1.Admitted k ∧ placed.1.New known placed.2).map
    fun placed => placed.1.constraint

theorem Admitted.of_same {k : Kind} {l m : Leaf} (admitted : m.Admitted k) (kind : l.kind = m.kind)
    (same : Constraint.SameIdentity l.constraint m.constraint) : l.Admitted k := by
  obtain ⟨inKind,tested,matched⟩ := admitted
  exact ⟨kind.trans inKind,same.hasPredicate.trans tested,(same.matchable k).trans matched⟩

theorem new_cons (known : List Identity) (front : List Leaf) (l m : Leaf) :
    m.New known (l :: front) ↔
      (l.kind = m.kind → ¬ Constraint.SameIdentity l.constraint m.constraint) ∧ m.New known front := by
  simp only [New,List.forall_mem_cons]
  exact and_left_comm

theorem new_known (known : List Identity) (front : List Leaf) (c : Constraint) (m : Leaf) :
    m.New (known ++ [c.identity]) front ↔ ¬ Constraint.SameIdentity c m.constraint ∧ m.New known front := by
  have outside : m.constraint.identity ∉ known ++ [c.identity] ↔
      ¬ Constraint.SameIdentity c m.constraint ∧ m.constraint.identity ∉ known := by
    simp only [List.mem_append,List.mem_singleton,not_or,Constraint.SameIdentity]
    rw [and_comm,eq_comm]
  rw [New,outside,and_assoc]
  rfl

-- To the leaves behind it a leaf matters only by what is known from then on.
def LeavesKnown (k : Kind) (known later : List Identity) (l : Leaf) : Prop :=
  ∀ (m : Leaf) (front : List Leaf), m.Admitted k → (m.New known (l :: front) ↔ m.New later front)

theorem leavesKnown_old (k : Kind) {known : List Identity} {l : Leaf} (old : l.constraint.identity ∈ known) :
    l.LeavesKnown k known known := by
  intro m front _
  rw [new_cons]
  refine and_iff_right_of_imp ?_
  intro new _ same
  have unknown := new.1
  rw [← show l.constraint.identity = m.constraint.identity from same] at unknown
  exact unknown old

theorem leavesKnown_admitted {k : Kind} (known : List Identity) {l : Leaf} (admitted : l.Admitted k) :
    l.LeavesKnown k known (known ++ [l.constraint.identity]) := by
  intro m front matched
  rw [new_cons,new_known]
  exact and_congr_left fun _ => forall_prop_of_true (admitted.1.trans matched.1.symm)

theorem leavesKnown_refused {k : Kind} (known : List Identity) {l : Leaf} (refused : ¬ l.Admitted k) :
    l.LeavesKnown k known known := by
  intro m front matched
  rw [new_cons]
  exact and_iff_right fun kind same => refused (matched.of_same kind same)

theorem additions_behind {k : Kind} {known later : List Identity} {l : Leaf} (left : l.LeavesKnown k known later)
    (rest : List Leaf) :
    additions k known (l :: rest) =
      (if l.Admitted k ∧ l.constraint.identity ∉ known then [l.constraint] else []) ++ additions k later rest := by
  have first : l.New known [] ↔ l.constraint.identity ∉ known := by simp [New]
  have behind : ((rest.zip rest.inits).filter fun placed => placed.1.Admitted k ∧ placed.1.New known (l :: placed.2)) =
      (rest.zip rest.inits).filter fun placed => placed.1.Admitted k ∧ placed.1.New later placed.2 := by
    refine List.filter_congr ?_
    intro placed _
    rw [decide_eq_decide]
    exact and_congr_right fun admitted => left _ _ admitted
  rw [additions,List.inits_cons,List.zip_cons_cons,List.zip_map_right,List.filter_cons,List.filter_map]
  simp only [first,decide_eq_true_eq,Function.comp_def,Prod.map,id_eq,behind]
  split <;> simp [additions]

-- Walking over the leaves with what is known so far keeps the same ones as
-- looking back from each leaf.
theorem additions_newcomers (k : Kind) (known : List Identity) (leaves : List Leaf) :
    Constraint.newcomers known ((leaves.filter (Admitted k ·)).map Leaf.constraint) = additions k known leaves := by
  induction leaves generalizing known with
  | nil => rfl
  | cons l rest ih =>
    by_cases admitted : l.Admitted k
    · rw [List.filter_cons_of_pos (by simpa using admitted),List.map_cons,Constraint.newcomers]
      by_cases old : l.constraint.identity ∈ known
      · rw [if_pos old,ih,additions_behind (leavesKnown_old k old),if_neg (fun both => both.2 old)]
        rfl
      · rw [if_neg old,ih,additions_behind (leavesKnown_admitted known admitted),if_pos ⟨admitted,old⟩]
        rfl
    · rw [List.filter_cons_of_neg (by simpa using admitted),ih,additions_behind (leavesKnown_refused known admitted),
        if_neg (fun both => admitted both.1)]
      rfl

theorem select_offers (leaves : List Leaf) (k : Kind) :
    k.select (Leaf.offers leaves) = (leaves.filter (Admitted k ·)).map Leaf.constraint := by
  rw [Kind.select,Leaf.offers,List.filterMap_filter,List.filterMap_map,← List.filterMap_eq_map,List.filterMap_filter]
  congr 1
  funext l
  by_cases inKind : l.kind = k
  · subst inKind
    simp [Admitted,sharedByMatchers]
  · simp [Admitted,inKind]

end Leaf

section
variable (source : String) (options : Options) (calls : List Call) (leaves : List Leaf)

def matcherEntries (k : Kind) : List Entry :=
  ((session source options calls).registry k).entries ++
    (UnitNames.ofSource source options).entries k (((session source options calls).registry k).size + 1)
      (Leaf.additions k ((session source options calls).registry k).known leaves)

def matcherSlots (k : Kind) (e : Entry) : Slots := {
  name := e.name
  condition := (resolve e.constraint.condition
    (((Bindings.empty.bind "_self" k.name).bind "_op" "*op").bind "_builder" "rewriter")).text
  summary := Literal.escape e.constraint.summary
  param := (k.parameter e.constraint.interface).1
  generic := (k.parameter e.constraint.interface).2}

def matcherRow : List Instance :=
  [Kind.type,.attr,.prop].flatMap fun k =>
    (matcherEntries source options calls leaves k).map fun e => ⟨.matcher,matcherSlots k e⟩

theorem entry_matcher (e : Entry) (k : Kind) : e.matcher k = ⟨.matcher,matcherSlots k e⟩ := by
  have parameter := e.matcher_parameter k
  simp only [matcherSlots,← parameter]
  exact e.matcherIn_agree k (matcherContext_agrees k)

theorem collectLeaves_gathered : (session source options calls).collectLeaves leaves =
    gathered source options (calls.flatMap Call.offers ++ Leaf.offers leaves) := by
  rw [session_offers]
  exact gathered_more source options _ _

theorem collectLeaves_entries (k : Kind) :
    (((session source options calls).collectLeaves leaves).registry k).entries =
      matcherEntries source options calls leaves k := by
  rw [collectLeaves_gathered,gathered_entries,Kind.select_append,Constraint.newcomers_append,UnitNames.entries_append,
    Leaf.select_offers,Leaf.additions_newcomers,matcherEntries,session_offers,Registry.size,Registry.known,
    gathered_constraints,gathered_entries,List.nil_append]
  simp [UnitNames.entries,Nat.add_comm]

theorem collectLeaves_matchers :
    ((session source options calls).collectLeaves leaves).matchers = matcherRow source options calls leaves := by
  rw [Tables.matchers_each]
  simp only [collectLeaves_entries,entry_matcher]
  rfl

end

end SharedVerifiers
