import SharedVerifiers.Tables
namespace SharedVerifiers

namespace Constraint

def identities (row : List Constraint) : List Identity := row.map identity

-- What a row of constraints adds to identities that are known already: of each
-- other identity the constraint that has it first.
def newcomers (known : List Identity) : List Constraint → List Constraint
  | [] => []
  | c :: rest =>
    if c.identity ∈ known then newcomers known rest
    else c :: newcomers (known ++ [c.identity]) rest

theorem newcomers_sublist (known : List Identity) (row : List Constraint) :
    (newcomers known row).Sublist row := by
  induction row generalizing known with
  | nil => exact .slnil
  | cons c rest ih =>
    unfold newcomers
    split
    · exact (ih known).cons c
    · exact (ih _).cons_cons c

theorem newcomers_unknown (known : List Identity) (row : List Constraint) :
    ∀ c ∈ newcomers known row, c.identity ∉ known := by
  induction row generalizing known with
  | nil => intro c member; cases member
  | cons head rest ih =>
    intro c member
    unfold newcomers at member
    split at member
    · exact ih known c member
    · rename_i unknown
      rcases List.mem_cons.mp member with rfl | later
      · exact unknown
      · have outside := ih _ c later
        exact fun old => outside (List.mem_append_left _ old)

theorem newcomers_distinct (known : List Identity) (row : List Constraint) :
    (identities (newcomers known row)).Nodup := by
  induction row generalizing known with
  | nil => exact .nil
  | cons c rest ih =>
    unfold newcomers
    split
    · exact ih known
    · refine List.nodup_cons.mpr ⟨?_,ih _⟩
      intro again
      obtain ⟨other,later,same⟩ := List.mem_map.mp again
      exact newcomers_unknown _ _ other later (by simp [same])

theorem newcomers_cover (known : List Identity) (row : List Constraint) (asked : Identity) :
    asked ∈ known ++ identities (newcomers known row) ↔ asked ∈ known ∨ asked ∈ identities row := by
  induction row generalizing known with
  | nil => simp [newcomers,identities]
  | cons c rest ih =>
    unfold newcomers
    split
    · rename_i old
      rw [ih known]
      constructor
      · rintro (before | later)
        · exact .inl before
        · exact .inr (List.mem_cons_of_mem _ later)
      · rintro (before | met)
        · exact .inl before
        · rcases List.mem_cons.mp met with rfl | later
          · exact .inl old
          · exact .inr later
    · have step := ih (known ++ [c.identity])
      simp only [identities,List.map_cons,List.append_assoc,List.singleton_append] at step ⊢
      rw [step]
      simp [or_assoc]

theorem newcomers_append (known : List Identity) (first second : List Constraint) :
    newcomers known (first ++ second) =
      newcomers known first ++ newcomers (known ++ identities (newcomers known first)) second := by
  induction first generalizing known with
  | nil => simp [newcomers,identities]
  | cons c rest ih =>
    simp only [List.cons_append,newcomers]
    split
    · exact ih known
    · simp [ih,identities]

end Constraint

def UnitNames.entries (names : UnitNames) (k : Kind) (first : Nat) (row : List Constraint) : List Entry :=
  (row.zipIdx first).map fun numbered => ⟨numbered.1,names.mint k numbered.2⟩

theorem UnitNames.entries_constraints (names : UnitNames) (k : Kind) (first : Nat) (row : List Constraint) :
    (names.entries k first row).map Entry.constraint = row := by
  simp [entries,Function.comp_def]

theorem UnitNames.entries_names (names : UnitNames) (k : Kind) (first : Nat) (row : List Constraint) :
    (names.entries k first row).map Entry.name = (List.range' first row.length).map (names.mint k) := by
  rw [← List.zipIdx_map_snd first row,List.map_map,entries,List.map_map]
  rfl

theorem UnitNames.entries_append (names : UnitNames) (k : Kind) (first : Nat) (left right : List Constraint) :
    names.entries k first (left ++ right) =
      names.entries k first left ++ names.entries k (first + left.length) right := by
  simp [entries,List.zipIdx_append]

namespace Registry

def constraints (r : Registry) : List Constraint := r.entries.map Entry.constraint

def known (r : Registry) : List Identity := Constraint.identities r.constraints

theorem get_isSome (r : Registry) (c : Constraint) : (r.get? c).isSome = true ↔ c.identity ∈ r.known := by
  simp [get?,find_scan,known,constraints,Constraint.identities]

theorem get_entry {r : Registry} {c : Constraint} {name : String} (found : r.get? c = some name) :
    ∃ e ∈ r.entries, Constraint.SameIdentity e.constraint c ∧ e.name = name := by
  unfold get? at found
  rw [find_scan] at found
  obtain ⟨e,scanned,named⟩ := Option.map_eq_some_iff.mp found
  have same : e.constraint.identity = c.identity := by simpa using List.find?_some scanned
  exact ⟨e,List.mem_of_find?_eq_some scanned,same,named⟩

theorem get_grows {before after : Registry} {c : Constraint} {name : String}
    (grown : before.entries <+: after.entries) (found : before.get? c = some name) :
    after.get? c = some name := by
  obtain ⟨more,entries⟩ := grown
  unfold get? at found ⊢
  rw [find_scan] at found ⊢
  obtain ⟨e,scanned,named⟩ := Option.map_eq_some_iff.mp found
  rw [← entries,List.find?_append,scanned]
  exact congrArg some named

theorem intern_cases (r : Registry) (names : UnitNames) (c : Constraint) :
    (c.identity ∈ r.known ∧ (r.intern names c).1 = r) ∨
      (c.identity ∉ r.known ∧
        (r.intern names c).1.entries = r.entries ++ names.entries r.kind (r.size + 1) [c]) := by
  cases found : r.get? c with
  | some name =>
    refine .inl ⟨(r.get_isSome c).mp (by simp [found]),?_⟩
    rw [intern_known names found]
  | none =>
    refine .inr ⟨?_,(intern_new names found).1⟩
    intro old
    simpa [found] using (r.get_isSome c).mpr old

def internAll (r : Registry) (names : UnitNames) (row : List Constraint) : Registry :=
  row.foldl (fun r c => (r.intern names c).1) r

theorem internAll_entries (r : Registry) (names : UnitNames) (row : List Constraint) :
    (r.internAll names row).entries =
      r.entries ++ names.entries r.kind (r.size + 1) (Constraint.newcomers r.known row) := by
  induction row generalizing r with
  | nil => simp [internAll,Constraint.newcomers,UnitNames.entries]
  | cons c rest ih =>
    change ((r.intern names c).1.internAll names rest).entries = _
    rw [ih,intern_kind,Constraint.newcomers]
    rcases r.intern_cases names c with ⟨old,same⟩ | ⟨unknown,entries⟩
    · rw [same,if_pos old]
    · have size : (r.intern names c).1.size = r.size + 1 := by simp [Registry.size,entries,UnitNames.entries]
      have known : (r.intern names c).1.known = r.known ++ [c.identity] := by
        simp [Registry.known,constraints,Constraint.identities,entries,UnitNames.entries]
      rw [if_neg unknown,entries,size,known,List.append_assoc,← List.singleton_append (l := Constraint.newcomers _ _),
        UnitNames.entries_append]
      rfl

theorem internAll_constraints (r : Registry) (names : UnitNames) (row : List Constraint) :
    (r.internAll names row).constraints = r.constraints ++ Constraint.newcomers r.known row := by
  simp [constraints,internAll_entries,UnitNames.entries_constraints]

theorem internAll_known (r : Registry) (names : UnitNames) (row : List Constraint) (asked : Identity) :
    asked ∈ (r.internAll names row).known ↔ asked ∈ r.known ∨ asked ∈ Constraint.identities row := by
  rw [← Constraint.newcomers_cover]
  simp [known,internAll_constraints,Constraint.identities]

end Registry

def Kind.select (k : Kind) (offers : List (Kind × Constraint)) : List Constraint :=
  offers.filterMap fun offer => if offer.1 = k then some offer.2 else none

theorem Kind.mem_select (k : Kind) (offers : List (Kind × Constraint)) (c : Constraint) :
    c ∈ k.select offers ↔ (k,c) ∈ offers := by
  simp only [select,List.mem_filterMap,Option.ite_none_right_eq_some,Option.some.injEq]
  constructor
  · rintro ⟨⟨_,_⟩,offered,rfl,rfl⟩
    exact offered
  · intro offered
    exact ⟨_,offered,rfl,rfl⟩

theorem Kind.select_identities (k : Kind) (offers : List (Kind × Constraint)) (asked : Identity) :
    asked ∈ Constraint.identities (k.select offers) ↔ ∃ c, (k,c) ∈ offers ∧ c.identity = asked := by
  simp only [Constraint.identities,List.mem_map,mem_select]

theorem Kind.select_append (k : Kind) (first second : List (Kind × Constraint)) :
    k.select (first ++ second) = k.select first ++ k.select second :=
  List.filterMap_append

theorem Kind.select_tagged (k tag : Kind) (row : List Constraint) :
    k.select (row.map (tag,·)) = if tag = k then row else [] := by
  unfold select
  rw [List.filterMap_map]
  split
  · rename_i same
    simp only [Function.comp_def,if_pos same,List.filterMap_some]
  · rename_i other
    simp only [Function.comp_def,if_neg other]
    exact List.filterMap_eq_nil_iff.mpr fun _ _ => rfl

theorem Kind.select_filter (k : Kind) (keep : Kind × Constraint → Bool) (offers : List (Kind × Constraint)) :
    k.select (offers.filter keep) = (k.select offers).filter fun c => keep (k,c) := by
  unfold select
  rw [List.filterMap_filter,List.filter_filterMap]
  congr 1
  funext offer
  obtain ⟨kind,c⟩ := offer
  by_cases same : kind = k
  · subst same
    by_cases kept : keep (kind,c) = true <;> simp [kept,Option.filter]
  · simp [same]

namespace Tables

theorem collect_registry (t : Tables) (k asked : Kind) (c : Constraint) :
    (t.collect k c).1.registry asked =
      if asked = k then ((t.registry asked).intern t.names c).1 else t.registry asked := by
  unfold collect
  rw [registry_withRegistry]
  split
  · rename_i same; rw [same]
  · rfl

theorem collect_names (t : Tables) (k : Kind) (c : Constraint) : (t.collect k c).1.names = t.names :=
  t.names_withRegistry k _

theorem collectAll_names (t : Tables) (offers : List (Kind × Constraint)) : (t.collectAll offers).names = t.names := by
  induction offers generalizing t with
  | nil => rfl
  | cons offer rest ih =>
    change ((t.collect offer.1 offer.2).1.collectAll rest).names = t.names
    rw [ih,collect_names]

theorem collectAll_append (t : Tables) (first second : List (Kind × Constraint)) :
    t.collectAll (first ++ second) = (t.collectAll first).collectAll second :=
  List.foldl_append

theorem collectAll_registry (t : Tables) (offers : List (Kind × Constraint)) (k : Kind) :
    (t.collectAll offers).registry k = (t.registry k).internAll t.names (k.select offers) := by
  induction offers generalizing t with
  | nil => rfl
  | cons offer rest ih =>
    change ((t.collect offer.1 offer.2).1.collectAll rest).registry k = _
    rw [ih,collect_registry,collect_names]
    by_cases same : offer.1 = k
    · simp [Kind.select,same,Registry.internAll]
    · simp [Kind.select,same,Ne.symm same]

theorem collectAll_known (t : Tables) (offers : List (Kind × Constraint)) (k : Kind) (asked : Identity) :
    asked ∈ ((t.collectAll offers).registry k).known ↔
      asked ∈ (t.registry k).known ∨ ∃ c, (k,c) ∈ offers ∧ c.identity = asked := by
  rw [collectAll_registry,Registry.internAll_known,Kind.select_identities]

theorem lookup_found (t : Tables) (k : Kind) (c : Constraint) (name : String) :
    t.lookup k c = .found name ↔ (t.registry k).get? c = some name := by
  unfold lookup
  split
  · rename_i given; simp [given]
  · rename_i missing
    cases k <;> simp [missing]

theorem lookup_entry {t : Tables} {k : Kind} {c : Constraint} {name : String} (found : t.lookup k c = .found name) :
    ∃ e ∈ (t.registry k).entries, Constraint.SameIdentity e.constraint c ∧ e.name = name :=
  Registry.get_entry ((t.lookup_found k c name).mp found)

theorem lookup_known (t : Tables) (k : Kind) (c : Constraint) :
    (∃ name, t.lookup k c = .found name) ↔ c.identity ∈ (t.registry k).known := by
  simp only [lookup_found,← Registry.get_isSome,Option.isSome_iff_exists]

theorem lookup_same (t : Tables) (k : Kind) {c d : Constraint} {name : String}
    (same : Constraint.SameIdentity c d) : t.lookup k c = .found name ↔ t.lookup k d = .found name := by
  rw [lookup_found,lookup_found,Registry.get?,Registry.get?,Registry.find_scan,Registry.find_scan,
    show c.identity = d.identity from same]

theorem collectAll_grows (t : Tables) (offers : List (Kind × Constraint)) (k : Kind) :
    (t.registry k).entries <+: ((t.collectAll offers).registry k).entries := by
  rw [collectAll_registry,Registry.internAll_entries]
  exact List.prefix_append _ _

theorem lookup_grows {t : Tables} {k : Kind} {c : Constraint} {name : String}
    (found : t.lookup k c = .found name) (offers : List (Kind × Constraint)) :
    (t.collectAll offers).lookup k c = .found name := by
  rw [lookup_found] at found ⊢
  exact Registry.get_grows (t.collectAll_grows offers k) found

end Tables

end SharedVerifiers
