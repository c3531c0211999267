import Mathlib.Data.List.Forall2
import Mathlib.Data.List.Nodup
import Mathlib.Logic.Relation
import SharedVerifiers.Json.Value
namespace SharedVerifiers.Json.Value

def defaultOptions : List (String × Value) := [
  ("name_prefix",.text "__mlir_ods_local_"),("tag",.text ""),("source_extension",.text "td")]

def defaults : List (String × Value) := [
  ("condition",.text ""),("summary",.text ""),("derived",.bool false),
  ("operands",.array []),("results",.array []),("attributes",.array []),
  ("properties",.array []),("successors",.array []),("regions",.array []),
  ("options",.object defaultOptions),("ops",.array []),("patterns",.array [])] ++ defaultOptions

-- Another way to write the same: a member that says no more than its default
-- is left out, or two members change places, at any depth.
inductive Rewritten : Value → Value → Prop where
  | dropped (front back : List (String × Value)) {name : String} {v : Value} (standard : (name,v) ∈ defaults) :
      Rewritten (.object (front ++ (name,v) :: back)) (.object (front ++ back))
  | swapped (front back : List (String × Value)) (one other : String × Value) :
      Rewritten (.object (front ++ one :: other :: back)) (.object (front ++ other :: one :: back))
  | inMember (front back : List (String × Value)) (name : String) {v w : Value} (inside : Rewritten v w) :
      Rewritten (.object (front ++ (name,v) :: back)) (.object (front ++ (name,w) :: back))
  | inItem (front back : List Value) {v w : Value} (inside : Rewritten v w) :
      Rewritten (.array (front ++ v :: back)) (.array (front ++ w :: back))

abbrev Rewrites : Value → Value → Prop := Relation.ReflTransGen Rewritten

theorem rewrites_fixed {v w : Value} (fixed : ∀ other, ¬ Rewritten v other) (rewrites : Rewrites v w) : w = v := by
  induction rewrites with
  | refl => rfl
  | tail _ step ih => exact absurd step (ih ▸ fixed _)

theorem text_fixed (words : String) (w : Value) : ¬ Rewritten (.text words) w := nofun
theorem bool_fixed (b : Bool) (w : Value) : ¬ Rewritten (.bool b) w := nofun
theorem number_fixed (n : Document.Number) (w : Value) : ¬ Rewritten (.number n) w := nofun

theorem rewrites_null {v : Value} (given : v ≠ .null) {w : Value} (rewrites : Rewrites v w) : w ≠ .null := by
  cases rewrites with
  | refl => exact given
  | tail _ step => cases step <;> exact nofun

theorem rewrites_selected (stays : String × Value → Bool) (front : List (String × Value))
    {members : List (String × Value)} (standard : ∀ member ∈ members, stays member = false → member ∈ defaults) :
    Rewrites (.object (front ++ members)) (.object (front ++ members.filter stays)) := by
  induction members generalizing front with
  | nil => exact .refl
  | cons member members ih =>
    obtain ⟨here,others⟩ := List.forall_mem_cons.mp standard
    cases kept : stays member with
    | true =>
      rw [List.filter_cons_of_pos kept]
      simpa only [List.append_assoc,List.cons_append,List.nil_append] using ih (front ++ [member]) others
    | false =>
      rw [List.filter_cons_of_neg (by simp [kept])]
      exact .head (.dropped front members (here kept)) (ih front others)

theorem rewrites_member (front back : List (String × Value)) (name : String) {v w : Value}
    (rewrites : Rewrites v w) :
    Rewrites (.object (front ++ (name,v) :: back)) (.object (front ++ (name,w) :: back)) := by
  induction rewrites with
  | refl => exact .refl
  | tail _ step ih => exact ih.tail (.inMember front back name step)

theorem rewrites_item (front back : List Value) {v w : Value} (rewrites : Rewrites v w) :
    Rewrites (.array (front ++ v :: back)) (.array (front ++ w :: back)) := by
  induction rewrites with
  | refl => exact .refl
  | tail _ step ih => exact ih.tail (.inItem front back step)

theorem items_rewritten {items front back : List Value} {v w : Value} (step : Rewritten v w)
    (before : List.Forall₂ Rewrites items (front ++ v :: back)) :
    List.Forall₂ Rewrites items (front ++ w :: back) := by
  induction front generalizing items with
  | nil =>
    cases before with
    | cons first rest => exact .cons (first.tail step) rest
  | cons other front ih =>
    cases before with
    | cons first rest => exact .cons first (ih rest)

theorem rewrites_array {items : List Value} {w : Value} (rewrites : Rewrites (.array items) w) :
    ∃ row, w = .array row ∧ List.Forall₂ Rewrites items row := by
  induction rewrites with
  | refl => exact ⟨items,rfl,List.forall₂_refl items⟩
  | tail _ step ih =>
    obtain ⟨row,rfl,before⟩ := ih
    cases step with
    | inItem front back inside => exact ⟨_,rfl,items_rewritten inside before⟩

-- What has become of an object whose members have names of their own: each is
-- there once at most, rewritten, and only a default can be missing.
structure Remains (members row : List (String × Value)) : Prop where
  names : (row.map Prod.fst).Nodup
  kept : ∀ name w, (name,w) ∈ row → ∃ v, (name,v) ∈ members ∧ Rewrites v w
  left : ∀ name v, (name,v) ∈ members → name ∈ row.map Prod.fst ∨ ∃ w, Rewrites v w ∧ (name,w) ∈ defaults

theorem Remains.others {name : String} {v : Value} {members row : List (String × Value)}
    (fresh : name ∉ members.map Prod.fst) (remains : Remains ((name,v) :: members) row) :
    Remains members (row.filter fun member => member.1 ≠ name) where
  names := remains.names.sublist (List.filter_sublist.map _)
  kept := by
    intro other w inside
    obtain ⟨present,apart⟩ := List.mem_filter.mp inside
    obtain ⟨original,member,rewrites⟩ := remains.kept other w present
    rcases List.mem_cons.mp member with same | later
    · exact absurd (congrArg Prod.fst same) (of_decide_eq_true apart)
    · exact ⟨original,later,rewrites⟩
  left := by
    intro other w inside
    have apart : other ≠ name := fun same => fresh (same ▸ List.mem_map_of_mem inside)
    refine (remains.left other w (List.mem_cons_of_mem _ inside)).imp_left ?_
    intro present
    obtain ⟨member,there,rfl⟩ := List.mem_map.mp present
    exact List.mem_map_of_mem (List.mem_filter.mpr ⟨there,decide_eq_true apart⟩)

theorem member_unique {members : List (String × Value)} (names : (members.map Prod.fst).Nodup)
    {name : String} {v w : Value} (one : (name,v) ∈ members) (other : (name,w) ∈ members) : v = w :=
  congrArg Prod.snd (List.inj_on_of_nodup_map names one other rfl)

theorem remains_refl {members : List (String × Value)} (names : (members.map Prod.fst).Nodup) :
    Remains members members :=
  ⟨names,fun _ w inside => ⟨w,inside,.refl⟩,fun _ _ inside => .inl (List.mem_map_of_mem inside)⟩

theorem remains_step {members row : List (String × Value)} (names : (members.map Prod.fst).Nodup)
    (before : Remains members row) {w : Value} (step : Rewritten (.object row) w) :
    ∃ after, w = .object after ∧ Remains members after := by
  cases step with
  | dropped front back standard =>
    rename_i name v
    refine ⟨front ++ back,rfl,?_,?_,?_⟩
    · exact before.names.sublist ((List.sublist_cons_self _ _).append_left front |>.map _)
    · intro other w inside
      exact before.kept other w ((List.sublist_cons_self _ _).append_left front |>.mem inside)
    · intro other u inside
      rcases before.left other u inside with stays | gone
      · by_cases same : other = name
        · obtain ⟨u',original,rewrites⟩ := before.kept name v (by simp)
          cases same
          cases member_unique names inside original
          exact .inr ⟨v,rewrites,standard⟩
        · exact .inl (by simpa [same] using stays)
      · exact .inr gone
  | swapped front back one other =>
    have moved : (front ++ other :: one :: back).Perm (front ++ one :: other :: back) :=
      (List.Perm.swap one other back).append_left front
    refine ⟨_,rfl,(moved.map Prod.fst).nodup_iff.mpr before.names,?_,?_⟩
    · exact fun name w inside => before.kept name w (moved.mem_iff.mp inside)
    · exact fun name v inside => (before.left name v inside).imp_left ((moved.map Prod.fst).mem_iff.mpr)
  | inMember front back name inside =>
    rename_i v w
    have same : (front ++ (name,w) :: back).map Prod.fst = (front ++ (name,v) :: back).map Prod.fst := by simp
    refine ⟨_,rfl,same ▸ before.names,?_,same ▸ before.left⟩
    intro other u present
    rcases List.mem_append.mp present with early | late
    · exact before.kept other u (List.mem_append_left _ early)
    · rcases List.mem_cons.mp late with changed | later
      · cases changed
        obtain ⟨original,there,rewrites⟩ := before.kept name v (by simp)
        exact ⟨original,there,rewrites.tail inside⟩
      · exact before.kept other u (List.mem_append_right _ (List.mem_cons_of_mem _ later))

theorem rewrites_object {members : List (String × Value)} (names : (members.map Prod.fst).Nodup) {w : Value}
    (rewrites : Rewrites (.object members) w) : ∃ row, w = .object row ∧ Remains members row := by
  induction rewrites with
  | refl => exact ⟨members,rfl,remains_refl names⟩
  | tail _ step ih =>
    obtain ⟨row,rfl,before⟩ := ih
    exact remains_step names before step

end SharedVerifiers.Json.Value
