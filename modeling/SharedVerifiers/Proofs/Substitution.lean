import Mathlib.Data.List.Basic
import SharedVerifiers.Proofs.Grammar
namespace SharedVerifiers.Condition

namespace Bindings

def bindAll (b : Bindings) (pairs : List (String × String)) : Bindings :=
  pairs.foldl (fun b pair => b.bind pair.1 pair.2) b

def SameNames (left right : Bindings) : Prop :=
  ∀ name, (left.get? name).isSome = (right.get? name).isSome

def Agree (left right : Bindings) : Prop := ∀ name, left.get? name = right.get? name

def Extends (earlier later : Bindings) : Prop :=
  ∀ name value, earlier.get? name = some value → later.get? name = some value

theorem bindAll_append (b : Bindings) (earlier later : List (String × String)) :
    b.bindAll (earlier ++ later) = (b.bindAll earlier).bindAll later :=
  List.foldl_append

theorem Agree.bind {left right : Bindings} (agree : left.Agree right) (name value : String) :
    (left.bind name value).Agree (right.bind name value) := by
  intro asked
  rw [get_bind,get_bind,agree asked]

theorem Agree.bindAll {left right : Bindings} (agree : left.Agree right) (pairs : List (String × String)) :
    (left.bindAll pairs).Agree (right.bindAll pairs) := by
  induction pairs generalizing left right with
  | nil => exact agree
  | cons pair rest ih => exact ih (agree.bind pair.1 pair.2)

theorem bind_swapped (b : Bindings) {one two : String} (apart : one ≠ two) (first second : String) :
    ((b.bind one first).bind two second).Agree ((b.bind two second).bind one first) := by
  intro asked
  simp only [get_bind]
  by_cases isOne : asked = one
  · subst isOne
    simp [apart]
  · simp [isOne]

theorem bindAll_reordered (b : Bindings) {pairs others : List (String × String)} (reordered : pairs.Perm others)
    (distinct : (pairs.map Prod.fst).Nodup) : (b.bindAll pairs).Agree (b.bindAll others) := by
  induction reordered generalizing b with
  | nil => exact fun _ => rfl
  | cons pair reordered ih => exact ih _ (List.nodup_cons.mp distinct).2
  | swap first second rest =>
    have apart : second.1 ≠ first.1 := by
      intro same
      exact (List.nodup_cons.mp distinct).1 (same ▸ List.mem_cons_self)
    exact (b.bind_swapped apart _ _).bindAll rest
  | trans early late ihEarly ihLate =>
    have still := (early.map Prod.fst).nodup_iff.mp distinct
    exact fun asked => (ihEarly b distinct asked).trans (ihLate b still asked)

-- A value is forgotten as soon as its name gets another one, so whether a name
-- that is bound again had a value before makes no difference.
theorem bindAll_rebound {left right : Bindings} {name : String} (apart : ∀ asked ≠ name, left.get? asked = right.get? asked)
    {later : List (String × String)} (again : name ∈ later.map Prod.fst) :
    (left.bindAll later).Agree (right.bindAll later) := by
  induction later generalizing left right with
  | nil => cases again
  | cons pair rest ih =>
    by_cases same : pair.1 = name
    · have settled : (left.bind pair.1 pair.2).Agree (right.bind pair.1 pair.2) := by
        intro asked
        rw [get_bind,get_bind]
        by_cases here : asked = pair.1
        · simp [here]
        · simp only [here,if_false]
          exact apart asked fun isName => here (isName.trans same.symm)
      exact settled.bindAll rest
    · have behind : name ∈ rest.map Prod.fst := (List.mem_cons.mp again).resolve_left (Ne.symm same)
      refine ih ?_ behind
      intro asked other
      rw [get_bind,get_bind,apart asked other]

end Bindings

open Bindings

theorem fill_agree {row : List Piece} {left right : Bindings}
    (agree : ∀ name ∈ names row, left.get? name = right.get? name) : fill row left = fill row right := by
  refine List.flatMap_congr ?_
  intro piece member
  cases piece with
  | hole name =>
    have named : String.ofList name ∈ names row := List.mem_filterMap.mpr ⟨.hole name,member,rfl⟩
    simp only [Piece.fill,agree _ named]
  | _ => rfl

theorem unboundNames_same {row : List Piece} {left right : Bindings}
    (same : ∀ name ∈ names row, (left.get? name).isSome = (right.get? name).isSome) :
    unboundNames row left = unboundNames row right := by
  refine List.filter_congr ?_
  intro name member
  rw [← Option.not_isSome,← Option.not_isSome,same name member]

theorem resolve_agree {template : String} {left right : Bindings}
    (agree : ∀ name ∈ names (pieces template), left.get? name = right.get? name) :
    resolve template left = resolve template right := by
  rw [resolve,resolve,fill_agree agree,unboundNames_same fun name member => congrArg Option.isSome (agree name member)]

theorem resolve_sameNames (template : String) {left right : Bindings} (same : left.SameNames right) :
    (resolve template left).free = (resolve template right).free :=
  congrArg firsts (unboundNames_same fun name _ => same name)

theorem foldl_note_filter (keep : String → Bool) (words seen : List String) :
    (words.foldl note seen).filter keep = (words.filter keep).foldl note (seen.filter keep) := by
  induction words generalizing seen with
  | nil => rfl
  | cons word rest ih =>
    rw [List.foldl_cons,ih]
    cases kept : keep word with
    | true =>
      rw [List.filter_cons_of_pos kept,List.foldl_cons]
      by_cases known : word ∈ seen <;> simp [note,known,kept]
    | false =>
      rw [List.filter_cons_of_neg (by simp [kept])]
      by_cases known : word ∈ seen <;> simp [note,known,kept]

theorem firsts_filter (keep : String → Bool) (words : List String) :
    (firsts words).filter keep = firsts (words.filter keep) :=
  foldl_note_filter keep words []

theorem free_bind (template : String) (b : Bindings) (name value : String) :
    (resolve template (b.bind name value)).free = (resolve template b).free.filter (· ≠ name) := by
  have unbound : unboundNames (pieces template) (b.bind name value) =
      (unboundNames (pieces template) b).filter (· ≠ name) := by
    rw [unboundNames,unboundNames,List.filter_filter]
    refine List.filter_congr ?_
    intro other _
    rw [get_bind]
    by_cases same : other = name <;> simp [same]
  simp only [resolve,unbound,firsts_filter]

theorem shown_bind (b : Bindings) (name value : String) (piece : Piece) :
    piece.shown (b.bind name value) = if piece = .hole name.toList then value else piece.shown b := by
  cases piece with
  | hole chars =>
    have same : (Piece.hole chars = .hole name.toList) ↔ String.ofList chars = name := by
      rw [Piece.hole.injEq,← String.toList_inj,String.toList_ofList]
    simp only [Piece.shown,get_bind,same]
    split <;> rfl
  | _ => rfl

theorem resolve_extends {template : String} {earlier later : Bindings}
    (resolved : (resolve template earlier).isResolved = true) (extended : earlier.Extends later) :
    resolve template later = resolve template earlier := by
  refine resolve_agree ?_
  intro name used
  obtain ⟨value,bound⟩ := Option.isSome_iff_exists.mp ((resolve_isResolved _ _).mp resolved name used)
  rw [bound,extended name value bound]

-- Values go in all at once. Which names have a value decides the verdict, and a
-- value has no say in anything but the places of its own name.
theorem substitution_exact (template : String) :
    (Normal (pieces template) ∧ print (pieces template) = template.toList) ∧
    (∀ left right : Bindings, left.SameNames right →
      (resolve template left).isResolved = (resolve template right).isResolved ∧
      (resolve template left).free = (resolve template right).free) ∧
    (∀ left right : Bindings, (∀ name ∈ names (pieces template), left.get? name = right.get? name) →
      resolve template left = resolve template right) ∧
    (∀ (b : Bindings) front name back value, pieces template = front ++ .hole name :: back →
      b.get? (String.ofList name) = some value →
      (resolve template b).text = String.ofList (fill front b) ++ value ++ String.ofList (fill back b)) ∧
    (∀ (b : Bindings) (name value : String),
      (resolve template (b.bind name value)).free = (resolve template b).free.filter (· ≠ name) ∧
      (resolve template b).text = String.join ((pieces template).map (Piece.shown b)) ∧
      (resolve template (b.bind name value)).text =
        String.join ((pieces template).map fun piece => if piece = .hole name.toList then value else piece.shown b)) ∧
    (∀ b later : Bindings, (resolve template b).isResolved = true → b.Extends later →
      resolve template later = resolve template b) ∧
    (∀ (b : Bindings) (pairs others : List (String × String)), pairs.Perm others → (pairs.map Prod.fst).Nodup →
      resolve template (b.bindAll pairs) = resolve template (b.bindAll others)) ∧
    ∀ (b : Bindings) (earlier : List (String × String)) (name old : String) (later : List (String × String)),
      name ∈ later.map Prod.fst →
      resolve template (b.bindAll (earlier ++ (name,old) :: later)) =
        resolve template (b.bindAll (earlier ++ later)) := by
  refine ⟨⟨pieces_normal template,pieces_print template⟩,?_,fun _ _ agree => resolve_agree agree,?_,?_,
    fun _ _ resolved extended => resolve_extends resolved extended,?_,?_⟩
  · intro left right same
    have free := resolve_sameNames template same
    exact ⟨congrArg List.isEmpty free,free⟩
  · intro b front name back value split bound
    rw [resolve,split,← String.toList_inj]
    simp only [fill,List.flatMap_append,List.flatMap_cons,Piece.fill,bound,String.toList_append,String.toList_ofList,
      List.append_assoc]
  · intro b name value
    refine ⟨free_bind template b name value,fill_shown _ b,?_⟩
    rw [resolve,fill_shown]
    exact congrArg (fun text => String.join ((pieces template).map text)) (funext (shown_bind b name value))
  · intro b pairs others reordered distinct
    have agree := b.bindAll_reordered reordered distinct
    exact resolve_agree fun name _ => agree name
  · intro b earlier name old later again
    rw [bindAll_append,bindAll_append]
    have apart : ∀ asked ≠ name, ((b.bindAll earlier).bind name old).get? asked = (b.bindAll earlier).get? asked := by
      intro asked other
      rw [get_bind,if_neg other]
    have agree := bindAll_rebound apart again
    exact resolve_agree fun asked _ => agree asked

-- Each value looks like the placeholder of the other.
def crossing : Bindings := Bindings.empty.bindAll [(selfName,"$lhs"),("lhs","$$_self")]
def ordinary : Bindings := Bindings.empty.bindAll [("lhs","a"),(selfName,"b")]

theorem substitution_exact_crossing :
    crossing.SameNames ordinary ∧
    (resolve "$_self $lhs$$lhs" crossing).isResolved = (resolve "$_self $lhs$$lhs" ordinary).isResolved ∧
    (resolve "$_self $lhs$$lhs" crossing).text = "$lhs " ++ "$$_self" ++ "$lhs" ∧
    resolve "$_self $lhs$$lhs" (crossing.bind "rhs" "c") = resolve "$_self $lhs$$lhs" crossing ∧
    resolve "$_self $lhs$$lhs" (Bindings.empty.bindAll [("lhs","$$_self"),(selfName,"$lhs")]) =
      resolve "$_self $lhs$$lhs" crossing ∧
    resolve "$_self $lhs$$lhs" (Bindings.empty.bindAll [(selfName,"b"),(selfName,"$lhs"),("lhs","$$_self")]) =
      resolve "$_self $lhs$$lhs" crossing := by
  have row : pieces "$_self $lhs$$lhs" =
      [.hole selfName.toList,.plain ' '] ++ .hole "lhs".toList :: [.doubled,.plain 'l',.plain 'h',.plain 's'] := by
    decide
  have same : crossing.SameNames ordinary := by
    intro name
    by_cases isSelf : name = selfName
    · subst isSelf
      rfl
    · by_cases isLeft : name = "lhs"
      · subst isLeft
        rfl
      · simp [crossing,ordinary,bindAll,get_bind,get_empty,isSelf,isLeft]
  have more : crossing.Extends (crossing.bind "rhs" "c") := by
    intro name value bound
    have other : name ≠ "rhs" := by
      rintro rfl
      cases bound
    rw [get_bind,if_neg other]
    exact bound
  obtain ⟨_,verdict,_,verbatim,_,extended,reordered,rebound⟩ := substitution_exact "$_self $lhs$$lhs"
  have front : String.ofList (fill [.hole selfName.toList,.plain ' '] crossing) = "$lhs " := by decide
  have back : String.ofList (fill [.doubled,.plain 'l',.plain 'h',.plain 's'] crossing) = "$lhs" := by decide
  refine ⟨same,(verdict _ _ same).1,?_,?_,?_,?_⟩
  · rw [verbatim crossing _ _ _ "$$_self" row (by decide),front,back]
  · exact extended crossing _ (by decide) more
  · exact reordered Bindings.empty [("lhs","$$_self"),(selfName,"$lhs")] [(selfName,"$lhs"),("lhs","$$_self")]
      (.swap _ _ _) (by decide)
  · exact rebound Bindings.empty [] selfName "b" [(selfName,"$lhs"),("lhs","$$_self")] (by decide)

end SharedVerifiers.Condition
