import Mathlib.Data.Finset.Card
import Mathlib.Data.List.Infix
import Mathlib.Data.List.Induction
import SharedVerifiers.Proofs.Interning
namespace SharedVerifiers

structure Demand where
  constraint : Constraint
  names : UnitNames
deriving DecidableEq,Repr

namespace Demand

def identities (demands : List Demand) : List Identity := demands.map fun d => d.constraint.identity

def distinct (demands : List Demand) : Nat := (identities demands).toFinset.card

def New (front : List Demand) (d : Demand) : Prop :=
  ∀ earlier ∈ front, ¬ Constraint.SameIdentity earlier.constraint d.constraint

instance (front : List Demand) (d : Demand) : Decidable (d.New front) :=
  inferInstanceAs (Decidable (∀ earlier ∈ front, ¬ _))

def firsts (demands : List Demand) : List (Demand × List Demand) :=
  (demands.zip demands.inits).filter fun placed => placed.1.New placed.2

def entry (k : Kind) (placed : Demand × List Demand) : Entry :=
  ⟨placed.1.constraint,placed.1.names.mint k (distinct (placed.2 ++ [placed.1]))⟩

theorem identities_append (front back : List Demand) : identities (front ++ back) = identities front ++ identities back :=
  List.map_append

theorem new_exact (front : List Demand) (d : Demand) : d.New front ↔ d.constraint.identity ∉ identities front := by
  simp [New,identities,Constraint.SameIdentity]

theorem new_same {front : List Demand} {d other : Demand} (new : d.New front)
    (same : Constraint.SameIdentity d.constraint other.constraint) : other.New front := by
  rw [new_exact] at new ⊢
  rwa [← show d.constraint.identity = other.constraint.identity from same]

theorem placed_snoc (demands : List Demand) (d : Demand) :
    (demands ++ [d]).zip (demands ++ [d]).inits = demands.zip demands.inits ++ [(d,demands)] := by
  induction demands with
  | nil => rfl
  | cons first rest ih =>
    rw [List.cons_append,List.inits_cons,List.inits_cons,List.zip_cons_cons,List.zip_cons_cons,List.zip_map_right,ih,
      List.zip_map_right,List.map_append]
    rfl

theorem firsts_snoc (demands : List Demand) (d : Demand) :
    firsts (demands ++ [d]) = firsts demands ++ if d.New demands then [(d,demands)] else [] := by
  rw [firsts,placed_snoc,List.filter_append,List.filter_singleton,cond_eq_ite]
  simp only [decide_eq_true_eq]
  rfl

theorem distinct_old {demands : List Demand} {d : Demand} (old : ¬ d.New demands) :
    distinct (demands ++ [d]) = distinct demands := by
  rw [new_exact,not_not] at old
  have same : (identities (demands ++ [d])).toFinset = (identities demands).toFinset := by
    simpa [identities] using old
  rw [distinct,same,distinct]

theorem distinct_new {demands : List Demand} {d : Demand} (new : d.New demands) :
    distinct (demands ++ [d]) = distinct demands + 1 := by
  rw [new_exact] at new
  have longer : (identities (demands ++ [d])).toFinset = insert d.constraint.identity (identities demands).toFinset := by
    simp [identities]
  rw [distinct,longer,Finset.card_insert_of_notMem (by simpa using new),distinct]

theorem mem_firsts (demands front : List Demand) (d : Demand) :
    (d,front) ∈ firsts demands ↔ front ++ [d] <+: demands ∧ d.New front := by
  induction demands using List.reverseRecOn with
  | nil => simp [firsts]
  | append_singleton demands last ih =>
    have added : (d,front) ∈ (if last.New demands then [(last,demands)] else []) ↔
        front ++ [d] = demands ++ [last] ∧ d.New front := by
      constructor
      · intro listed
        split at listed
        · rename_i new
          cases List.mem_singleton.mp listed
          exact ⟨rfl,new⟩
        · cases listed
      · rintro ⟨whole,new⟩
        obtain ⟨rfl,last⟩ := List.append_inj' whole rfl
        cases last
        rw [if_pos new]
        exact List.mem_singleton.mpr rfl
    rw [firsts_snoc,List.mem_append,ih,added,List.prefix_concat_iff,← or_and_right,or_comm]

theorem firsts_identities (demands : List Demand) (asked : Identity) :
    asked ∈ (firsts demands).map (fun placed => placed.1.constraint.identity) ↔ asked ∈ identities demands := by
  induction demands using List.reverseRecOn with
  | nil => rfl
  | append_singleton demands d ih =>
    rw [firsts_snoc,List.map_append,List.mem_append,ih,identities_append,List.mem_append]
    by_cases new : d.New demands
    · rw [if_pos new]
      rfl
    · rw [if_neg new]
      have old : d.constraint.identity ∈ identities demands := by rwa [new_exact,not_not] at new
      rw [List.map_nil]
      constructor
      · rintro (met | none)
        · exact .inl met
        · cases none
      · rintro (met | again)
        · exact .inl met
        · cases List.mem_singleton.mp again
          exact .inl old

theorem firsts_length (demands : List Demand) : (firsts demands).length = distinct demands := by
  induction demands using List.reverseRecOn with
  | nil => rfl
  | append_singleton demands d ih =>
    rw [firsts_snoc,List.length_append,ih]
    by_cases new : d.New demands
    · rw [if_pos new,distinct_new new]
      rfl
    · rw [if_neg new,distinct_old new]
      rfl

end Demand

open Demand

namespace Registry

def serve (r : Registry) (d : Demand) : Registry × String := r.intern d.names d.constraint

def serveAll (r : Registry) (demands : List Demand) : Registry := demands.foldl (fun r d => (r.serve d).1) r

def replies (r : Registry) : List Demand → List String
  | [] => []
  | d :: rest => (r.serve d).2 :: (r.serve d).1.replies rest

theorem serveAll_append (r : Registry) (demands more : List Demand) :
    r.serveAll (demands ++ more) = (r.serveAll demands).serveAll more :=
  List.foldl_append

theorem serveAll_snoc (r : Registry) (demands : List Demand) (d : Demand) :
    r.serveAll (demands ++ [d]) = ((r.serveAll demands).serve d).1 :=
  r.serveAll_append demands [d]

theorem replies_length (r : Registry) (demands : List Demand) : (r.replies demands).length = demands.length := by
  induction demands generalizing r with
  | nil => rfl
  | cons d rest ih => rw [replies,List.length_cons,ih,List.length_cons]

theorem replies_at {r : Registry} {demands : List Demand} {i : Nat} {d : Demand} (place : demands[i]? = some d) :
    (r.replies demands)[i]? = some ((r.serveAll (demands.take i)).serve d).2 := by
  induction demands generalizing r i with
  | nil => cases place
  | cons first rest ih =>
    cases i with
    | zero =>
      cases place
      rfl
    | succ i => exact ih place

theorem serve_grows (r : Registry) (d : Demand) : r.entries <+: (r.serve d).1.entries := by
  rcases r.intern_cases d.names d.constraint with ⟨_,same⟩ | ⟨_,longer⟩
  · rw [serve,same]
  · rw [serve,longer]
    exact List.prefix_append _ _

theorem serveAll_grows (r : Registry) (demands : List Demand) : r.entries <+: (r.serveAll demands).entries := by
  induction demands generalizing r with
  | nil => exact List.prefix_rfl
  | cons d rest ih => exact (r.serve_grows d).trans (ih (r.serve d).1)

theorem serve_replied (r : Registry) (d : Demand) : (r.serve d).1.get? d.constraint = some (r.serve d).2 := by
  cases known : r.get? d.constraint with
  | some name =>
    rw [serve,intern_known d.names known]
    exact known
  | none =>
    obtain ⟨longer,name⟩ := intern_new d.names known
    have unmet : (r.entries.find? fun e => e.constraint.identity = d.constraint.identity) = none := by
      rw [← find_scan]
      simpa [get?] using known
    rw [get?,find_scan,serve,longer,List.find?_append,unmet,name]
    simp

structure Served (r : Registry) (k : Kind) (demands : List Demand) : Prop where
  kind : r.kind = k
  entries : r.entries = (firsts demands).map (entry k)

namespace Served
variable {r : Registry} {k : Kind} {demands : List Demand}

theorem known (served : r.Served k demands) (asked : Identity) : asked ∈ r.known ↔ asked ∈ identities demands := by
  rw [← firsts_identities,Registry.known,constraints,Constraint.identities,served.entries,List.map_map,List.map_map]
  rfl

theorem size (served : r.Served k demands) : r.size = distinct demands := by
  rw [Registry.size,served.entries,List.length_map,firsts_length]

theorem serve (served : r.Served k demands) (d : Demand) : (r.serve d).1.Served k (demands ++ [d]) := by
  refine ⟨(r.intern_kind d.names d.constraint).trans served.kind,?_⟩
  rw [firsts_snoc,List.map_append,← served.entries]
  rcases r.intern_cases d.names d.constraint with ⟨old,same⟩ | ⟨unknown,longer⟩
  · rw [served.known,← not_not (a := _ ∈ _),← new_exact] at old
    rw [Registry.serve,same,if_neg old,List.map_nil,List.append_nil]
  · rw [served.known,← new_exact] at unknown
    rw [Registry.serve,longer,if_pos unknown,served.kind,served.size,← distinct_new unknown]
    rfl

theorem replied (served : r.Served k demands) (d : Demand) :
    ∃ front first, front ++ [first] <+: demands ++ [d] ∧ Constraint.SameIdentity first.constraint d.constraint ∧
      d.New front ∧ (r.serve d).2 = first.names.mint k (distinct (front ++ [first])) := by
  obtain ⟨e,member,same,named⟩ := get_entry (r.serve_replied d)
  rw [(served.serve d).entries] at member
  obtain ⟨⟨first,front⟩,placed,rfl⟩ := List.mem_map.mp member
  obtain ⟨leads,new⟩ := (mem_firsts (demands ++ [d]) front first).mp placed
  exact ⟨front,first,leads,same,new_same new same,named.symm⟩

end Served

theorem serveAll_served (k : Kind) (demands : List Demand) : ((empty k).serveAll demands).Served k demands := by
  induction demands using List.reverseRecOn with
  | nil => exact ⟨rfl,rfl⟩
  | append_singleton demands d ih =>
    rw [serveAll_snoc]
    exact ih.serve d

end Registry

namespace Constraint

theorem sameIdentity_equivalence : Equivalence SameIdentity := ⟨SameIdentity.refl,SameIdentity.symm,SameIdentity.trans⟩

theorem interface_getD (c : Constraint) :
    c.interface = if c.interfaceType.getD "" = "" then none else some (c.interfaceType.getD "") := by
  unfold interface
  cases c.interfaceType with
  | none => rfl
  | some type => by_cases blank : type = "" <;> simp [Option.filter,blank]

theorem interface_same (c d : Constraint) :
    c.interface = d.interface ↔ c.interfaceType.getD "" = d.interfaceType.getD "" := by
  rw [interface_getD,interface_getD]
  constructor
  · intro same
    split at same
    · rename_i blank
      split at same
      · rename_i empty
        rw [blank,empty]
      · cases same
    · split at same
      · cases same
      · exact Option.some.inj same
  · intro same
    rw [same]

theorem sameIdentity_parts (c d : Constraint) : SameIdentity c d ↔
    c.condition = d.condition ∧ c.interfaceType.getD "" = d.interfaceType.getD "" := by
  rw [sameIdentity_exact,interface_same]

end Constraint

namespace Identity

def recorder : Hasher (List (String ⊕ Bool)) := ⟨fun s words => s ++ [.inl words],fun s given => s ++ [.inr given]⟩

theorem feed_recorder (i : Identity) : i.feed recorder [] =
    .inl i.condition :: .inr i.interface.isSome :: (i.interface.map .inl).toList := by
  unfold feed
  split
  · rename_i none
    rw [none]
    rfl
  · rename_i type given
    rw [given]
    rfl

-- Identities that are fed alike to every hasher are the same, and no hasher can
-- tell the same one apart.
theorem feed_exact (i j : Identity) : i = j ↔ ∀ {σ : Type} (h : Hasher σ) (s : σ), i.feed h s = j.feed h s := by
  constructor
  · rintro rfl
    intros
    rfl
  · intro fed
    have recorded := fed recorder []
    rw [feed_recorder,feed_recorder] at recorded
    obtain ⟨condition,behind⟩ := List.cons.inj recorded
    have interface : i.interface = j.interface := by
      cases left : i.interface with
      | none =>
        cases right : j.interface with
        | none => rfl
        | some type => simp [left,right] at behind
      | some type =>
        cases right : j.interface with
        | none => simp [left,right] at behind
        | some other => simpa [left,right] using behind
    have words : i.condition = j.condition := Sum.inl.inj condition
    cases i
    cases j
    cases words
    cases interface
    rfl

end Identity

open Constraint

-- Everybody who demands a constraint gets the name that it was given at first,
-- with the number that was its own then. Where it is kept is found by its hash,
-- and a walk over all that is kept finds the same.
theorem interning_first_seen (k : Kind) (demands : List Demand) :
    let r := (Registry.empty k).serveAll demands
    let replies := (Registry.empty k).replies demands
    replies.length = demands.length ∧
    (∀ i d, demands[i]? = some d → ∃ front first, front ++ [first] <+: demands.take (i + 1) ∧
      SameIdentity first.constraint d.constraint ∧ d.New front ∧
      replies[i]? = some (first.names.mint k (distinct (front ++ [first])))) ∧
    r.entries = (firsts demands).map (entry k) ∧
    r.size = distinct demands ∧
    (∀ more, r.entries <+: ((Registry.empty k).serveAll (demands ++ more)).entries ∧
      ∀ c name, r.get? c = some name → ((Registry.empty k).serveAll (demands ++ more)).get? c = some name) ∧
    (∀ c, r.get? c = (r.entries.find? fun e => SameIdentity e.constraint c).map Entry.name) ∧
    Equivalence SameIdentity ∧
    (∀ c d, SameIdentity c d ↔ c.condition = d.condition ∧ c.interfaceType.getD "" = d.interfaceType.getD "") ∧
    ∀ c d, (SameIdentity c d → hash c.identity = hash d.identity) ∧
      (SameIdentity c d ↔ ∀ {σ : Type} (h : Hasher σ) (s : σ), c.identity.feed h s = d.identity.feed h s) := by
  have served := Registry.serveAll_served k demands
  refine ⟨Registry.replies_length _ demands,?_,served.entries,served.size,?_,?_,sameIdentity_equivalence,sameIdentity_parts,?_⟩
  · intro i d place
    obtain ⟨front,first,leads,same,new,named⟩ := (Registry.serveAll_served k (demands.take i)).replied d
    have upTo : demands.take (i + 1) = demands.take i ++ [d] := by rw [List.take_add_one,place,Option.toList_some]
    refine ⟨front,first,upTo ▸ leads,same,new,?_⟩
    rw [Registry.replies_at place,named]
  · intro more
    have grown : ((Registry.empty k).serveAll demands).entries <+:
        ((Registry.empty k).serveAll (demands ++ more)).entries := by
      rw [Registry.serveAll_append]
      exact Registry.serveAll_grows _ more
    exact ⟨grown,fun c name found => Registry.get_grows grown found⟩
  · intro c
    rw [Registry.get?,Registry.find_scan]
    rfl
  · intro c d
    refine ⟨?_,Identity.feed_exact c.identity d.identity⟩
    intro same
    exact congrArg hash same

def positive : Constraint := {condition := "$_self > 0",summary := "positive",interfaceType := some ""}
def positiveIndex : Constraint := {positive with interfaceType := some "int64_t"}
def positiveReworded : Constraint := {positive with summary := "more than zero",interfaceType := none}

def threeDemands : List Demand := [
  ⟨positive,⟨"verify_","Ops"⟩⟩,
  ⟨positiveIndex,⟨"check_","Index"⟩⟩,
  ⟨positiveReworded,⟨"","Late"⟩⟩]

theorem interning_first_seen_three :
    threeDemands[2]? = some ⟨positiveReworded,⟨"","Late"⟩⟩ ∧
    ((Registry.empty .prop).replies threeDemands)[2]? = some "verify_prop_constraint_Ops1" ∧
    ((Registry.empty .prop).serveAll threeDemands).entries =
      [⟨positive,"verify_prop_constraint_Ops1"⟩,⟨positiveIndex,"check_prop_constraint_Index2"⟩] ∧
    ((Registry.empty .prop).serveAll threeDemands).get? positiveReworded = some "verify_prop_constraint_Ops1" ∧
    SameIdentity positive positiveReworded ∧ hash positive.identity = hash positiveReworded.identity := by
  obtain ⟨_,replied,entries,_,_,scan,_,_,hashed⟩ := interning_first_seen .prop threeDemands
  have third : threeDemands[2]? = some ⟨positiveReworded,⟨"","Late"⟩⟩ := rfl
  have same : SameIdentity positive positiveReworded := by decide
  obtain ⟨front,first,leads,_,new,reply⟩ := replied 2 _ third
  have kept : ((Registry.empty .prop).serveAll threeDemands).entries =
      [⟨positive,"verify_prop_constraint_Ops1"⟩,⟨positiveIndex,"check_prop_constraint_Index2"⟩] :=
    entries.trans (by decide)
  refine ⟨third,?_,kept,?_,same,(hashed _ _).1 same⟩
  · cases front with
    | nil =>
      obtain rfl : first = ⟨positive,⟨"verify_","Ops"⟩⟩ := (List.cons_prefix_cons.mp leads).1
      exact reply.trans (by decide)
    | cons earlier rest =>
      obtain rfl : earlier = ⟨positive,⟨"verify_","Ops"⟩⟩ := (List.cons_prefix_cons.mp leads).1
      exact absurd same (new _ List.mem_cons_self)
  · rw [scan,kept]
    decide

end SharedVerifiers
