import SharedVerifiers.Emission
import SharedVerifiers.Proofs.Labels
import SharedVerifiers.Proofs.Marks
namespace SharedVerifiers
namespace Literal

inductive Escape where
  | none
  | begun
  | octal (value room : Nat)
deriving DecidableEq

inductive Outcome where
  | more (bytes : List UInt8) (e : Escape)
  | closed (bytes : List UInt8)
  | broken
deriving DecidableEq

def octalDigit? (c : Char) : Option Nat := if '0' ≤ c ∧ c ≤ '7' then some (c.toNat - 48) else none

def octalEnd (value : Nat) (behind : List UInt8 → Outcome) : Outcome :=
  if value < 256 then behind [UInt8.ofNat value] else .broken

def stepPlain (earlier : List UInt8) (c : Char) : Outcome :=
  if c = '"' then .closed earlier
  else if c = '\\' then .more earlier .begun
  else if c = '\n' then .broken
  else .more (earlier ++ String.utf8EncodeChar c) .none

def step (e : Escape) (c : Char) : Outcome :=
  match e with
  | .none => stepPlain [] c
  | .begun =>
    if c = '\\' then .more [92] .none
    else if c = '"' then .more [34] .none
    else if c = 't' then .more [9] .none
    else if c = 'n' then .more [10] .none
    else match octalDigit? c with
      | some digit => .more [] (.octal digit 2)
      | none => .broken
  | .octal value room =>
    match octalDigit? c with
    | some digit =>
      if room ≤ 1 then octalEnd (value * 8 + digit) fun bytes => .more bytes .none
      else .more [] (.octal (value * 8 + digit) (room - 1))
    | none => octalEnd value fun bytes => stepPlain bytes c

def read (e : Escape) : List Char → Option (List UInt8 × List Char)
  | [] => none
  | c :: rest =>
    match step e c with
    | .more bytes e => (read e rest).map fun outcome => (bytes ++ outcome.1,outcome.2)
    | .closed bytes => some (bytes,rest)
    | .broken => none

-- A stretch of a literal that stands for these bytes, whatever comes behind it.
def Reads (front : List Char) (bytes : List UInt8) : Prop :=
  ∀ rest, read .none (front ++ rest) = (read .none rest).map fun outcome => (bytes ++ outcome.1,outcome.2)

theorem Reads.nil : Reads [] [] := by
  intro rest
  simp

theorem Reads.append {front back : List Char} {early late : List UInt8} (first : Reads front early)
    (second : Reads back late) : Reads (front ++ back) (early ++ late) := by
  intro rest
  rw [List.append_assoc,first,second,Option.map_map]
  simp [Function.comp_def]

theorem Reads.flatMap {α : Type} {write : α → List Char} {mean : α → List UInt8}
    (each : ∀ x, Reads (write x) (mean x)) (items : List α) : Reads (items.flatMap write) (items.flatMap mean) := by
  induction items with
  | nil => exact .nil
  | cons x rest ih => simpa only [List.flatMap_cons] using (each x).append ih

theorem read_more {e next : Escape} {c : Char} {bytes : List UInt8} (stepped : step e c = .more bytes next)
    (rest : List Char) : read e (c :: rest) = (read next rest).map fun outcome => (bytes ++ outcome.1,outcome.2) := by
  rw [read,stepped]

theorem read_silent {e next : Escape} {c : Char} (stepped : step e c = .more [] next) (rest : List Char) :
    read e (c :: rest) = read next rest := by
  rw [read_more stepped]
  exact Option.map_id'

theorem step_backslash : step .none '\\' = .more [] .begun := rfl

def Plain (c : Char) : Prop := c ≠ '"' ∧ c ≠ '\\' ∧ c ≠ '\n'

instance (c : Char) : Decidable (Plain c) := inferInstanceAs (Decidable (_ ∧ _ ∧ _))

theorem reads_plain {c : Char} (plain : Plain c) : Reads [c] (String.utf8EncodeChar c) := by
  obtain ⟨quote,backslash,newline⟩ := plain
  intro rest
  exact read_more (by simp [step,stepPlain,quote,backslash,newline]) rest

theorem reads_words {words : List Char} (plain : ∀ c ∈ words, Plain c) :
    Reads words (words.flatMap String.utf8EncodeChar) := by
  induction words with
  | nil => exact .nil
  | cons c rest ih =>
    obtain ⟨first,others⟩ := List.forall_mem_cons.mp plain
    exact (reads_plain first).append (ih others)

theorem octalDigit_char : ∀ n < 8, octalDigit? (Char.ofNat (48 + n)) = some n := by decide

theorem octalDigit_plain : ∀ n < 8, Char.ofNat (48 + n) ≠ '\\' ∧ Char.ofNat (48 + n) ≠ '"' ∧
    Char.ofNat (48 + n) ≠ 't' ∧ Char.ofNat (48 + n) ≠ 'n' := by decide

theorem step_begun {n : Nat} (digit : n < 8) : step .begun (Char.ofNat (48 + n)) = .more [] (.octal n 2) := by
  obtain ⟨backslash,quote,tab,newline⟩ := octalDigit_plain n digit
  simp only [step,if_neg backslash,if_neg quote,if_neg tab,if_neg newline,octalDigit_char n digit]

theorem step_octal {value n : Nat} (digit : n < 8) :
    step (.octal value 2) (Char.ofNat (48 + n)) = .more [] (.octal (value * 8 + n) 1) := by
  simp only [step,octalDigit_char n digit]
  rfl

theorem step_octal_last {value n : Nat} (digit : n < 8) (small : value * 8 + n < 256) :
    step (.octal value 1) (Char.ofNat (48 + n)) = .more [UInt8.ofNat (value * 8 + n)] .none := by
  simp only [step,octalDigit_char n digit,Nat.le_refl,if_true,octalEnd,if_pos small]

theorem reads_octal (b : UInt8) : Reads ('\\' :: Text.octal b) [b] := by
  have small := b.toNat_lt
  have value : (b.toNat / 64 * 8 + b.toNat / 8 % 8) * 8 + b.toNat % 8 = b.toNat := by omega
  have first := step_begun (show b.toNat / 64 < 8 by omega)
  have second := @step_octal (b.toNat / 64) _ (show b.toNat / 8 % 8 < 8 by omega)
  have third := step_octal_last (show b.toNat % 8 < 8 by omega) (value.symm ▸ small)
  rw [value,UInt8.ofNat_toNat] at third
  intro rest
  simp only [Text.octal,List.cons_append,List.nil_append]
  rw [read_silent step_backslash,read_silent first,read_silent second,read_more third]
  rfl

-- With fewer digits it would go on into a digit behind it.
example : read .none "\\0152\"".toList = some ([13,50],[]) ∧ read .none "\\152\"".toList = some ([106],[]) := by decide

theorem reads_short {c : Char} {b : UInt8} (short : step .begun c = .more [b] .none) : Reads ['\\',c] [b] := by
  intro rest
  simp only [List.cons_append,List.nil_append]
  rw [read_silent step_backslash,read_more short]
  rfl

theorem printable_exact : ∀ n < 127, 32 ≤ n → (Char.ofNat n).toNat = n ∧
    String.utf8EncodeChar (Char.ofNat n) = [UInt8.ofNat n] := by decide

theorem reads_printable {b : UInt8} (printable : 32 ≤ b ∧ b ≤ 126) (backslash : b ≠ 92) (quote : b ≠ 34) :
    Reads [Char.ofNat b.toNat] [b] := by
  obtain ⟨char,encoded⟩ := printable_exact b.toNat (Nat.lt_succ_of_le printable.2) printable.1
  have plain : Plain (Char.ofNat b.toNat) := by
    refine ⟨?_,?_,?_⟩
    · rintro same
      exact quote (Label.char_injective same)
    · rintro same
      exact backslash (Label.char_injective same)
    · rintro same
      have low : 32 ≤ (Char.ofNat b.toNat).toNat := char.symm ▸ printable.1
      rw [same] at low
      exact absurd low (by decide)
  simpa only [encoded,UInt8.ofNat_toNat] using reads_plain plain

def Printable (c : Char) : Prop := 32 ≤ c.toNat ∧ c.toNat ≤ 126

instance (c : Char) : Decidable (Printable c) := inferInstanceAs (Decidable (_ ∧ _))

theorem octalDigit_printable : ∀ n < 8, Printable (Char.ofNat (48 + n)) := by decide

theorem octal_printable (b : UInt8) : ∀ c ∈ Text.octal b, Printable c := by
  have small := b.toNat_lt
  simp only [Text.octal,List.forall_mem_cons]
  exact ⟨octalDigit_printable _ (by omega),octalDigit_printable _ (by omega),octalDigit_printable _ (by omega),
    List.forall_mem_nil _⟩

inductive Escaped (b : UInt8) : List Char → Prop where
  | short {c : Char} (stands : step .begun c = .more [b] .none) (printable : Printable c) : Escaped b ['\\',c]
  | printable (range : 32 ≤ b ∧ b ≤ 126) (backslash : b ≠ 92) (quote : b ≠ 34) : Escaped b [Char.ofNat b.toNat]
  | octal : Escaped b ('\\' :: Text.octal b)

theorem escapeByte_escaped (b : UInt8) : Escaped b (escapeByte b) := by
  unfold escapeByte
  split
  · rename_i backslash
    subst backslash
    exact .short rfl (by decide)
  · rename_i backslash
    split
    · rename_i tab
      subst tab
      exact .short rfl (by decide)
    · split
      · rename_i newline
        subst newline
        exact .short rfl (by decide)
      · split
        · rename_i quote
          subst quote
          exact .short rfl (by decide)
        · rename_i quote
          split
          · rename_i range
            exact .printable range backslash quote
          · exact .octal

theorem Escaped.reads {b : UInt8} {letters : List Char} (escaped : Escaped b letters) : Reads letters [b] := by
  cases escaped with
  | short stands _ => exact reads_short stands
  | printable range backslash quote => exact reads_printable range backslash quote
  | octal => exact reads_octal b

theorem reads_escape (text : String) : Reads (escape text).toList (Text.bytes text) := by
  rw [escape,String.toList_ofList]
  simpa using Reads.flatMap (fun b => (escapeByte_escaped b).reads) (Text.bytes text)

theorem read_quote (rest : List Char) : read .none ('"' :: rest) = some ([],rest) := rfl

theorem Reads.only {front : List Char} {one two : List UInt8} (first : Reads front one) (second : Reads front two) :
    one = two := by
  have closed := first ['"']
  rw [second,read_quote] at closed
  simpa using closed.symm

theorem escape_injective {one two : String} (same : escape one = escape two) : one = two :=
  Label.bytes_injective ((reads_escape one).only (same ▸ reads_escape two))

theorem Escaped.letters_printable {b : UInt8} {letters : List Char} (escaped : Escaped b letters) :
    ∀ c ∈ letters, Printable c := by
  have backslash : Printable '\\' := by decide
  cases escaped with
  | @short c _ letter => exact List.forall_mem_cons.mpr ⟨backslash,List.forall_mem_singleton.mpr letter⟩
  | printable range _ _ =>
    obtain ⟨char,_⟩ := printable_exact b.toNat (Nat.lt_succ_of_le range.2) range.1
    refine List.forall_mem_singleton.mpr ?_
    rw [Printable,char]
    exact range
  | octal => exact List.forall_mem_cons.mpr ⟨backslash,octal_printable b⟩

theorem escape_printable (text : String) : ∀ c ∈ (escape text).toList, Printable c := by
  rw [escape,String.toList_ofList]
  intro c member
  obtain ⟨b,_,written⟩ := List.mem_flatMap.mp member
  exact (escapeByte_escaped b).letters_printable c written

end Literal

namespace Template

def quote : Mark := .letter '"'

def lead : Template → String
  | .verifier .type => " must be "
  | .verifier .attr => "' failed to satisfy constraint: "
  | .verifier .prop => "' failed to satisfy constraint: "
  | .verifier .successor => ")' failed to verify constraint: "
  | .verifier .region => "failed to verify constraint: "
  | .matcher => ": "

def trail : Template → String
  | .verifier .type => ", but got "
  | _ => ""

-- All literals of the row are closed: its quotes come in pairs, and none of them
-- is escaped. Values count for nothing.
def Closed (row : List Mark) (generic : Bool) : Prop :=
  (written {generic} row).count '"' % 2 = 0 ∧ '\\' ∉ written {generic} row

instance (row : List Mark) (generic : Bool) : Decidable (Closed row generic) := inferInstanceAs (Decidable (_ ∧ _))

structure Quotes (t : Template) (front back : List Mark) : Prop where
  row : t.marks = front ++ quote :: letters t.lead.toList ++ .value .summary :: letters t.trail.toList ++ quote :: back
  closed : ∀ generic, Closed front generic

def ahead (row : List Mark) : List Mark :=
  ((row.takeWhile (· ≠ .value .summary)).reverse.dropWhile (· ≠ quote)).tail.reverse
def after (row : List Mark) : List Mark :=
  ((row.dropWhile (· ≠ .value .summary)).dropWhile (· ≠ quote)).tail

theorem quotes (t : Template) : ∃ front back, t.Quotes front back := by
  have found : t.marks = ahead t.marks ++ quote :: letters t.lead.toList ++ .value .summary :: letters t.trail.toList ++
      quote :: after t.marks ∧ Closed (ahead t.marks) true ∧ Closed (ahead t.marks) false := by
    rw [t.spelled.property]
    rcases t with (_ | _ | _ | _ | _) | _ <;> decide +kernel
  obtain ⟨split,generic,concrete⟩ := found
  refine ⟨ahead t.marks,after t.marks,split,?_⟩
  intro either
  cases either with
  | true => exact generic
  | false => exact concrete

theorem lead_plain (t : Template) : ∀ c ∈ t.lead.toList, Literal.Plain c := by
  have plain : t.lead.toList.all (Literal.Plain ·) = true := by
    cases t with
    | verifier k => cases k <;> decide
    | matcher => decide
  simpa using plain

theorem trail_plain (t : Template) : ∀ c ∈ t.trail.toList, Literal.Plain c := by
  have plain : t.trail.toList.all (Literal.Plain ·) = true := by
    cases t with
    | verifier k => cases k <;> decide
    | matcher => decide
  simpa using plain

end Template

open Template

-- The literal that the template opens in front of the summary reads as the
-- template's own words around this summary, and ends at the template's own quote.
def Instance.Reports (i : Instance) (summary : String) : Prop :=
  ∃ front back, i.template.Quotes front back ∧ ∃ opened, i.text.toList = written i.slots front ++ '"' :: opened ∧
    Literal.read .none opened =
      some (Text.bytes i.template.lead ++ Text.bytes summary ++ Text.bytes i.template.trail,written i.slots back)

theorem Instance.reports {i : Instance} {summary : String} (escaped : i.slots.summary = Literal.escape summary) :
    i.Reports summary := by
  obtain ⟨front,back,quotes⟩ := i.template.quotes
  have reads := ((Literal.reads_words i.template.lead_plain).append (Literal.reads_escape summary)).append
    (Literal.reads_words i.template.trail_plain)
  refine ⟨front,back,quotes,i.template.lead.toList ++ (Literal.escape summary).toList ++ i.template.trail.toList ++
    '"' :: written i.slots back,?_,?_⟩
  · simp only [text,← written_marks,quotes.row,written_append,written_cons,written_letters,Mark.written,quote,Slots.get,
      escaped,List.append_assoc,List.cons_append,List.nil_append]
  · rw [reads,Literal.read_quote]
    simp [Text.bytes]

-- Nothing in a summary is lost or read otherwise on the way through the generated
-- code.
theorem diagnostics_exact :
    (∀ (t : Template) (slots : Slots) (summary : String),
      (Instance.mk t {slots with summary := Literal.escape summary}).Reports summary) ∧
    (∀ (e : Entry) (k : Kind), (e.verifier k).Reports e.constraint.summary ∧ (e.matcher k).Reports e.constraint.summary) ∧
    (∀ summary, ∀ c ∈ (Literal.escape summary).toList, Literal.Printable c) ∧
    ∀ one two, Literal.escape one = Literal.escape two ↔ one = two := by
  refine ⟨?_,?_,Literal.escape_printable,fun _ _ => ⟨Literal.escape_injective,congrArg _⟩⟩
  · intro t slots summary
    exact Instance.reports rfl
  · intro e k
    exact ⟨Instance.reports rfl,Instance.reports rfl⟩

-- Quotes, a backslash, a new line, a digit behind an octal escape, and a
-- backslash in front of the closing quote.
def awkward : String := "say \"hi\"\n1 é2 ?\\"

theorem diagnostics_exact_awkward :
    Literal.escape awkward = "say \\\"hi\\\"\\n1 \\303\\2512 ?\\\\" ∧
    (Instance.mk (.verifier .type) {summary := Literal.escape awkward}).Reports awkward ∧
    '\\' ∈ (Literal.escape awkward).toList ∧ Literal.Printable '\\' ∧
    Literal.escape "é" ≠ Literal.escape "\\303\\251" := by
  have text : Literal.escape awkward = "say \\\"hi\\\"\\n1 \\303\\2512 ?\\\\" := by decide +kernel
  have letter : '\\' ∈ (Literal.escape awkward).toList := by decide +kernel
  have apart : "é" ≠ "\\303\\251" := by decide
  obtain ⟨reports,_,printable,injective⟩ := diagnostics_exact
  exact ⟨text,reports (.verifier .type) {} awkward,letter,printable awkward _ letter,
    fun same => apart ((injective _ _).mp same)⟩

end SharedVerifiers
