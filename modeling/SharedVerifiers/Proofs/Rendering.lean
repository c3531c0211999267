import Mathlib.Data.List.Basic
import Mathlib.Data.List.Forall2
import SharedVerifiers.Emission
import SharedVerifiers.Proofs.Marks
namespace SharedVerifiers

namespace Template

def opening : List Char := ['\x7b','\x7b']
def closing : List Char := ['\x7d','\x7d']

def tag (words : String) : List Char := opening ++ words.toList ++ closing

-- The source of a template, and what is written for it with these values. It is
-- read from the left, and a value that goes in is not read again.
inductive Filled (slots : Slots) : List Char → List Char → Prop where
  | done : Filled slots [] []
  | letter {c : Char} {source text : List Char} (plain : ¬ opening <+: c :: source) (rest : Filled slots source text) :
      Filled slots (c :: source) (c :: text)
  | value (s : Slot) {source text : List Char} (rest : Filled slots source text) :
      Filled slots (tag s.word ++ source) ((slots.get s).toList ++ text)
  | ifGeneric {words source text : List Char} (plain : '\x7b' ∉ words) (rest : Filled slots source text) :
      Filled slots (tag "#if generic" ++ (words ++ (tag "/if" ++ source)))
        ((if slots.generic then words else []) ++ text)

theorem tag_opens (words : String) (rest : List Char) : opening <+: tag words ++ rest := by
  rw [tag,List.append_assoc,List.append_assoc]
  exact List.prefix_append _ _

theorem stops_once {stop : Char} {words others x y : List Char} (plain : stop ∉ words) (bare : stop ∉ others)
    (same : words ++ stop :: x = others ++ stop :: y) : words = others ∧ x = y := by
  rcases List.append_eq_append_iff.mp same with ⟨more,rfl,rest⟩ | ⟨more,rfl,rest⟩
  · cases more with
    | nil => exact ⟨(List.append_nil words).symm,(List.cons.inj rest).2⟩
    | cons c behind => exact absurd (List.mem_append_right _ ((List.cons.inj rest).1 ▸ List.mem_cons_self)) bare
  · cases more with
    | nil => exact ⟨List.append_nil others,(List.cons.inj rest).2.symm⟩
    | cons c behind => exact absurd (List.mem_append_right _ ((List.cons.inj rest).1 ▸ List.mem_cons_self)) plain

theorem tag_same {words others : String} (plain : '\x7d' ∉ words.toList) (bare : '\x7d' ∉ others.toList)
    {x y : List Char} (same : tag words ++ x = tag others ++ y) : words = others ∧ x = y := by
  rw [tag,tag,List.append_assoc,List.append_assoc,List.append_assoc,List.append_assoc] at same
  obtain ⟨word,rest⟩ := stops_once plain bare (List.append_cancel_left same)
  exact ⟨String.toList_inj.mp word,(List.cons.inj rest).2⟩

theorem word_plain (s : Slot) : '\x7d' ∉ s.word.toList := by cases s <;> decide

theorem tag_slot {s t : Slot} {x y : List Char} (same : tag s.word ++ x = tag t.word ++ y) : s = t ∧ x = y := by
  obtain ⟨word,rest⟩ := tag_same (word_plain s) (word_plain t) same
  refine ⟨?_,rest⟩
  revert word
  cases s <;> cases t <;> decide

theorem tag_condition (s : Slot) (x y : List Char) : tag s.word ++ x ≠ tag "#if generic" ++ y := by
  intro same
  refine absurd (tag_same (word_plain s) (by decide) same).1 ?_
  cases s <;> decide

theorem tag_end {words others x y : List Char} (plain : '\x7b' ∉ words) (bare : '\x7b' ∉ others)
    (same : words ++ (tag "/if" ++ x) = others ++ (tag "/if" ++ y)) : words = others ∧ x = y := by
  obtain ⟨front,rest⟩ := stops_once plain bare same
  exact ⟨front,List.append_cancel_left rest⟩

theorem Filled.unique {slots : Slots} {source text other : List Char} (filled : Filled slots source text)
    (again : Filled slots source other) : text = other := by
  induction filled generalizing other with
  | done =>
    generalize same : [] = given at again
    cases again with
    | done => rfl
    | letter => cases same
    | value => simp [tag,opening] at same
    | ifGeneric => simp [tag,opening] at same
  | @letter c source text plain rest ih =>
    generalize same : c :: source = given at again
    cases again with
    | done => cases same
    | letter _ rest =>
      cases same
      rw [ih rest]
    | value s => exact absurd (same ▸ tag_opens s.word _) plain
    | ifGeneric => exact absurd (same ▸ tag_opens _ _) plain
  | value s rest ih =>
    generalize same : tag s.word ++ _ = given at again
    cases again with
    | done => simp [tag,opening] at same
    | letter plain => exact absurd (same ▸ tag_opens s.word _) plain
    | value t rest =>
      obtain ⟨rfl,rfl⟩ := tag_slot same
      rw [ih rest]
    | ifGeneric => exact absurd same (tag_condition s _ _)
  | @ifGeneric words source text plain rest ih =>
    generalize same : tag "#if generic" ++ _ = given at again
    cases again with
    | done => simp [tag,opening] at same
    | letter plain => exact absurd (same ▸ tag_opens _ _) plain
    | value s => exact absurd same.symm (tag_condition s _ _)
    | ifGeneric bare rest =>
      obtain ⟨rfl,rfl⟩ := tag_end plain bare (List.append_cancel_left same)
      rw [ih rest]

def Mark.source : Mark → List Char
  | .letter c => [c]
  | .value s => tag s.word
  | .ifGeneric words => tag "#if generic" ++ (words.toList ++ tag "/if")

def sources (row : List Mark) : List Char := row.flatMap Mark.source

-- No letter of the row could be taken for the beginning of a tag.
def Readable : List Mark → Prop
  | [] => True
  | .letter c :: rest => ¬ opening <+: c :: sources rest ∧ Readable rest
  | .value _ :: rest => Readable rest
  | .ifGeneric words :: rest => '\x7b' ∉ words.toList ∧ Readable rest

instance decideReadable : ∀ row : List Mark, Decidable (Readable row)
  | [] => isTrue trivial
  | .letter _ :: rest => @instDecidableAnd _ _ inferInstance (decideReadable rest)
  | .value _ :: rest => decideReadable rest
  | .ifGeneric _ :: rest => @instDecidableAnd _ _ inferInstance (decideReadable rest)

theorem filled_row (slots : Slots) {row : List Mark} (readable : Readable row) :
    Filled slots (sources row) (written slots row) := by
  induction row with
  | nil => exact .done
  | cons m rest ih =>
    cases m with
    | letter c => exact .letter readable.1 (ih readable.2)
    | value s => exact .value s (ih readable)
    | ifGeneric words =>
      have filled : Filled slots _ _ := .ifGeneric readable.1 (ih readable.2)
      simpa only [sources,written,List.flatMap_cons,Mark.source,Mark.written,List.append_assoc] using filled

theorem sources_letters (words : List Char) : sources (letters words) = words := by
  rw [sources,letters,List.flatMap_map]
  exact List.flatMap_singleton' words

theorem Part.sources_marks (p : Part) : sources p.marks = p.source.toList := by
  cases p with
  | text words => exact sources_letters words.toList
  | slot s =>
    change tag s.word ++ [] = ("\x7b\x7b" ++ s.word ++ "\x7d\x7d").toList
    rw [List.append_nil,String.toList_append,String.toList_append]
    rfl
  | ifGeneric words =>
    change tag "#if generic" ++ (words.toList ++ tag "/if") ++ [] =
      ("\x7b\x7b#if generic\x7d\x7d" ++ words ++ "\x7b\x7b/if\x7d\x7d").toList
    rw [List.append_nil,String.toList_append,String.toList_append,List.append_assoc]
    rfl

theorem sources_marks (t : Template) : sources t.marks = t.source.toList := by
  rw [source,String.toList_join,List.flatMap_map,marks,sources,List.flatMap_assoc]
  exact congrArg (t.parts.flatMap ·) (funext Part.sources_marks)

theorem readable (t : Template) : Readable t.marks := by
  rw [t.spelled.property]
  rcases t with (_ | _ | _ | _ | _) | _ <;> decide +kernel

theorem render_filled (t : Template) (slots : Slots) : Filled slots t.source.toList (t.render slots).toList := by
  rw [← sources_marks,← written_marks]
  exact filled_row slots t.readable

end Template

namespace Instance

def Writes (i : Instance) (text : String) : Prop := Template.Filled i.slots i.template.source.toList text.toList

theorem writes_exact (i : Instance) (text : String) : i.Writes text ↔ text = i.text := by
  have filled : i.Writes i.text := i.template.render_filled i.slots
  constructor
  · intro written
    exact String.toList_inj.mp (written.unique filled)
  · rintro rfl
    exact filled

def RowWrites (row : List Instance) (text : String) : Prop :=
  ∃ texts, List.Forall₂ Writes row texts ∧ text = String.join texts

theorem rowWrites_exact (row : List Instance) (text : String) :
    RowWrites row text ↔ text = String.join (row.map Instance.text) := by
  have writes : Writes = fun i text => i.text = text := by
    funext i text
    exact propext ((i.writes_exact text).trans eq_comm)
  have each : ∀ texts, List.Forall₂ Writes row texts ↔ texts = row.map Instance.text := by
    intro texts
    rw [writes,← List.forall₂_map_left_iff,List.forall₂_eq_eq_eq,eq_comm]
  simp only [RowWrites,each,exists_eq_left]

end Instance

end SharedVerifiers
