import Mathlib.Data.List.Nodup
import SharedVerifiers.Proofs.Interning
import SharedVerifiers.Proofs.MintedNames
namespace SharedVerifiers

-- A new unit to which everything in the row has been offered. Whatever is done
-- to a unit comes down to such a row.
def gathered (source : String) (options : Options) (offers : List (Kind × Constraint)) : Tables :=
  (Tables.ofSource source options).collectAll offers

theorem Tables.foldl_offers {κ : Type _} {after : Tables → κ → Tables} {offers : κ → List (Kind × Constraint)}
    (step : ∀ t call, after t call = t.collectAll (offers call)) (t : Tables) (calls : List κ) :
    calls.foldl after t = t.collectAll (calls.flatMap offers) := by
  induction calls generalizing t with
  | nil => rfl
  | cons call rest ih => rw [List.foldl_cons,ih,step,List.flatMap_cons,Tables.collectAll_append]

section
variable (source : String) (options : Options) (offers : List (Kind × Constraint)) (k : Kind)

theorem gathered_more (more : List (Kind × Constraint)) :
    (gathered source options offers).collectAll more = gathered source options (offers ++ more) :=
  (Tables.collectAll_append _ offers more).symm

theorem gathered_unit : (gathered source options offers).names = UnitNames.ofSource source options :=
  Tables.collectAll_names _ offers

theorem gathered_entries : ((gathered source options offers).registry k).entries =
    (UnitNames.ofSource source options).entries k 1 (Constraint.newcomers [] (k.select offers)) := by
  rw [gathered,Tables.collectAll_registry,Registry.internAll_entries]
  cases k <;> rfl

theorem gathered_constraints : ((gathered source options offers).registry k).constraints =
    Constraint.newcomers [] (k.select offers) := by
  rw [Registry.constraints,gathered_entries,UnitNames.entries_constraints]

theorem gathered_size : ((gathered source options offers).registry k).size =
    (Constraint.newcomers [] (k.select offers)).length := by
  rw [← gathered_constraints source options,Registry.constraints,List.length_map,Registry.size]

theorem gathered_known (asked : Identity) : asked ∈ ((gathered source options offers).registry k).known ↔
    ∃ c, (k,c) ∈ offers ∧ c.identity = asked := by
  rw [gathered,Tables.collectAll_known]
  constructor
  · rintro (old | offered)
    · cases k <;> cases old
    · exact offered
  · exact .inr

theorem gathered_known_distinct : ((gathered source options offers).registry k).known.Nodup := by
  rw [Registry.known,gathered_constraints]
  exact Constraint.newcomers_distinct _ _

theorem gathered_names : ((gathered source options offers).registry k).entries.map Entry.name =
    (List.range' 1 ((gathered source options offers).registry k).size).map
      ((UnitNames.ofSource source options).mint k) := by
  rw [Registry.size,gathered_entries,UnitNames.entries_names]
  simp [UnitNames.entries]

theorem gathered_names_distinct (kinds : List Kind) (distinct : kinds.Nodup) :
    (kinds.flatMap fun k => ((gathered source options offers).registry k).entries.map Entry.name).Nodup := by
  simp only [gathered_names]
  generalize UnitNames.ofSource source options = names
  refine List.nodup_flatMap.mpr ⟨?_,?_⟩
  · intro k _
    have ordinals : (List.range' 1 ((gathered source options offers).registry k).size).Nodup := List.nodup_range'
    exact ordinals.map fun _ _ same => (names.mint_injective same).2
  · refine distinct.imp ?_
    intro left right different name inLeft inRight
    obtain ⟨n,_,rfl⟩ := List.mem_map.mp inLeft
    obtain ⟨m,_,same⟩ := List.mem_map.mp inRight
    exact different (names.mint_injective same).1.symm

end

section
variable {source : String} {options : Options} {offers : List (Kind × Constraint)} {k other : Kind}

theorem gathered_entry_offered {e : Entry} (member : e ∈ ((gathered source options offers).registry k).entries) :
    (k,e.constraint) ∈ offers := by
  have listed : e.constraint ∈ ((gathered source options offers).registry k).constraints := List.mem_map_of_mem member
  rw [gathered_constraints] at listed
  exact (k.mem_select _ _).mp ((Constraint.newcomers_sublist _ _).subset listed)

theorem gathered_entry_named {i : Nat} {e : Entry}
    (place : ((gathered source options offers).registry k).entries[i]? = some e) :
    e.name = (UnitNames.ofSource source options).mint k (i + 1) := by
  have named := congrArg (·[i]?) (gathered_names source options offers k)
  obtain ⟨inside,_⟩ := List.getElem?_eq_some_iff.mp place
  simp only [List.getElem?_map,place,Option.map_some,Registry.size,List.getElem?_range' inside,
    Option.some.injEq,Nat.one_mul] at named
  rw [named,Nat.add_comm]

theorem gathered_name_one {first second : Entry}
    (left : first ∈ ((gathered source options offers).registry k).entries)
    (right : second ∈ ((gathered source options offers).registry other).entries)
    (same : first.name = second.name) : k = other ∧ first = second := by
  obtain ⟨i,atFirst⟩ := List.mem_iff_getElem?.mp left
  obtain ⟨j,atSecond⟩ := List.mem_iff_getElem?.mp right
  rw [gathered_entry_named atFirst,gathered_entry_named atSecond] at same
  obtain ⟨rfl,place⟩ := UnitNames.mint_injective _ same
  obtain rfl : i = j := Nat.succ.inj place
  exact ⟨rfl,Option.some.inj (atFirst.symm.trans atSecond)⟩

end

end SharedVerifiers
