import Mathlib.Data.List.Induction
import SharedVerifiers.Proofs.Hoistability
import SharedVerifiers.Proofs.Marks
namespace SharedVerifiers
open Condition

namespace Template

def openBrace : Mark := .letter (Char.ofNat 0x7B)
def closeBrace : Mark := .letter (Char.ofNat 0x7D)

-- Between definitions a heading is read, kept in reverse, until its brace opens.
-- From there on it stays, until that brace closes and the next heading begins.
structure Scope where
  heading : List Mark := []
  depth : Nat := 0
deriving DecidableEq

def Scope.step (s : Scope) (m : Mark) : Scope :=
  if m = openBrace then {s with depth := s.depth + 1}
  else if m = closeBrace then if s.depth ≤ 1 then {} else {s with depth := s.depth - 1}
  else if s.depth = 0 then {s with heading := m :: s.heading} else s

def scope (row : List Mark) : Scope := row.foldl Scope.step {}

theorem scope_snoc (row : List Mark) (m : Mark) : scope (row ++ [m]) = (scope row).step m := by
  rw [scope,List.foldl_append]
  rfl

theorem Scope.step_depth (s : Scope) (m : Mark) (heading : List Mark) :
    (s.step m).depth = ((Scope.mk heading s.depth).step m).depth := by
  unfold step
  split
  · rfl
  · split
    · dsimp only
      split <;> rfl
    · dsimp only
      split <;> rfl

-- A body is left at once, heading and all, or not at all.
theorem Scope.step_within (s : Scope) (within : 0 < s.depth) (m : Mark) :
    s.step m = {} ∨ (0 < (s.step m).depth ∧ (s.step m).heading = s.heading) := by
  unfold step
  split
  · exact .inr ⟨Nat.succ_pos _,rfl⟩
  · split
    · split
      · exact .inl rfl
      · rename_i deep
        exact .inr ⟨Nat.sub_pos_of_lt (Nat.lt_of_not_le deep),rfl⟩
    · rw [if_neg (Nat.pos_iff_ne_zero.mp within)]
      exact .inr ⟨within,rfl⟩

def Whole (row : List Mark) : Prop := scope row = {}

def Inside (row : List Mark) : Prop := ∀ front, front <+: row → 0 < (scope (openBrace :: front)).depth

theorem Inside.snoc {row : List Mark} {m : Mark} (inside : Inside row)
    (stays : 0 < (scope (openBrace :: (row ++ [m]))).depth) : Inside (row ++ [m]) := by
  intro front leads
  rcases List.prefix_concat_iff.mp leads with rfl | earlier
  · exact stays
  · exact inside front earlier

inductive Scope.Reads : Scope → List Mark → Prop where
  | between {earlier heading : List Mark} (whole : Whole earlier) : Reads ⟨heading,0⟩ (earlier ++ heading.reverse)
  | within {earlier heading opened : List Mark} (whole : Whole earlier) (inside : Inside opened) :
      Reads ⟨heading,(scope (openBrace :: opened)).depth⟩ (earlier ++ heading.reverse ++ openBrace :: opened)

theorem Scope.Reads.whole {row : List Mark} (whole : Whole row) : Scope.Reads {} row := by
  have unbegun : Scope.Reads ⟨[],0⟩ (row ++ [].reverse) := .between whole
  simpa using unbegun

theorem Scope.Reads.step {s : Scope} {row : List Mark} (reads : s.Reads row) (current : scope row = s) (m : Mark) :
    (s.step m).Reads (row ++ [m]) := by
  have later : scope (row ++ [m]) = s.step m := by rw [scope_snoc,current]
  cases reads with
  | @between earlier heading whole =>
    by_cases opens : m = openBrace
    · subst opens
      have first : Inside [] := by
        intro front leads
        rw [List.prefix_nil.mp leads]
        exact Nat.one_pos
      exact .within whole first
    · by_cases closes : m = closeBrace
      · have left : (Scope.mk heading 0).step m = {} := by
          rw [Scope.step,if_neg opens,if_pos closes]
          rfl
        rw [left] at later ⊢
        exact .whole later
      · have longer : (Scope.mk heading 0).step m = ⟨m :: heading,0⟩ := by simp [Scope.step,opens,closes]
        rw [longer,List.append_assoc,← List.reverse_cons]
        exact .between whole
  | @within earlier heading opened whole inside =>
    have depth : ((Scope.mk heading (scope (openBrace :: opened)).depth).step m).depth =
        (scope (openBrace :: (opened ++ [m]))).depth := by
      rw [← List.cons_append,scope_snoc]
      exact (Scope.step_depth _ m heading).symm
    rcases Scope.step_within (Scope.mk heading _) (inside opened List.prefix_rfl) m with left | ⟨stays,same⟩
    · rw [left] at later ⊢
      exact .whole later
    · have next : (Scope.mk heading (scope (openBrace :: opened)).depth).step m =
          ⟨heading,(scope (openBrace :: (opened ++ [m]))).depth⟩ := by
        rw [← depth]
        exact congrArg (Scope.mk · _) same
      rw [next,List.append_assoc,List.cons_append]
      exact .within whole (inside.snoc (depth ▸ stays))

theorem scope_reads (row : List Mark) : (scope row).Reads row := by
  induction row using List.reverseRecOn with
  | nil => exact .whole rfl
  | append_singleton row m ih =>
    rw [scope_snoc]
    exact ih.step rfl m

-- The heading in front of a place inside a body is that of the body's own
-- definition: all in front of it is complete, and its brace has not closed yet.
theorem scope_within {row : List Mark} (within : 0 < (scope row).depth) :
    ∃ earlier opened, row = earlier ++ (scope row).heading.reverse ++ openBrace :: opened ∧
      Whole earlier ∧ Inside opened := by
  generalize same : scope row = s at within ⊢
  have reads := scope_reads row
  rw [same] at reads
  cases reads with
  | between whole => exact absurd within (Nat.lt_irrefl 0)
  | within whole inside => exact ⟨_,_,rfl,whole,inside⟩

structure Listing where
  done : List (List Mark) := []
  current : List Mark := []
  depth : Nat := 0

def Listing.step (l : Listing) (m : Mark) : Listing :=
  if m = .letter '(' then {l with current := if l.depth = 0 then [] else m :: l.current,depth := l.depth + 1}
  else if m = .letter ')' then
    if l.depth = 1 then ⟨l.done ++ [l.current.reverse],[],0⟩
    else {l with current := m :: l.current,depth := l.depth - 1}
  else if m = .letter ',' ∧ l.depth = 1 then {l with done := l.done ++ [l.current.reverse],current := []}
  else {l with current := m :: l.current}

def listed (heading : List Mark) : List (List Mark) := (heading.foldl Listing.step {}).done

def place (t : Template) : Scope := scope (t.inFront .condition)
def heading (t : Template) : List Mark := t.place.heading.reverse
def parameters (t : Template) : List (List Mark) := listed t.heading

end Template

def lastWord (text : List Char) : String := String.ofList (text.reverse.takeWhile isNameChar).reverse

theorem lastWord_behind (front : List Char) {c : Char} (outside : isNameChar c = false) {name : String}
    (chars : ∀ d ∈ name.toList, isNameChar d = true) : lastWord (front ++ c :: name.toList) = name := by
  have reversed : ∀ d ∈ name.toList.reverse, isNameChar d = true := fun d member => chars d (List.mem_reverse.mp member)
  rw [lastWord,List.reverse_append,List.reverse_cons,List.append_assoc,List.takeWhile_append_of_pos reversed]
  simp [outside]

def Instance.declared (i : Instance) : List String :=
  i.template.parameters.map fun parameter => lastWord (Template.written i.slots parameter)

namespace Template

structure Parameter where
  type : List Mark
  separator : Char
  name : String

def Parameter.row (p : Parameter) : List Mark := p.type ++ letters (p.separator :: p.name.toList)

def Parameter.Named (p : Parameter) : Prop :=
  isNameChar p.separator = false ∧ p.name.toList.all isNameChar = true

instance (p : Parameter) : Decidable p.Named := inferInstanceAs (Decidable (_ ∧ _))

theorem Parameter.declares {p : Parameter} (named : p.Named) (slots : Slots) : lastWord (written slots p.row) = p.name := by
  rw [row,written_append,written_letters]
  exact lastWord_behind _ named.1 (List.all_eq_true.mp named.2)

def typed (type : String) (separator : Char) (name : String) : Parameter := ⟨letters type.toList,separator,name⟩

def errorCallback : Parameter := typed " llvm::function_ref<::mlir::InFlightDiagnostic()>" ' ' "emitError"

def verifierParameters : Kind → List Parameter
  | .type => [typed "\n    ::mlir::Operation " '*' "op",typed " ::mlir::Type" ' ' "type",
      typed " ::llvm::StringRef" ' ' "valueKind",typed "\n    unsigned" ' ' "valueIndex"]
  | .attr => [typed "\n    ::mlir::Attribute" ' ' "attr",typed " ::llvm::StringRef" ' ' "attrName",errorCallback]
  | .prop => [⟨letters "\n    ".toList ++ [.value .param],' ',"prop"⟩,typed " ::llvm::StringRef" ' ' "propName",
      errorCallback]
  | .successor => [typed "\n    ::mlir::Operation " '*' "op",typed " ::mlir::Block " '*' "successor",
      typed "\n    ::llvm::StringRef" ' ' "successorName",typed " unsigned" ' ' "successorIndex"]
  | .region => [typed "\n    ::mlir::Operation " '*' "op",typed " ::mlir::Region " '&' "region",
      typed " ::llvm::StringRef" ' ' "regionName",typed "\n    unsigned" ' ' "regionIndex"]

theorem verifierParameters_named (k : Kind) : ∀ p ∈ verifierParameters k, p.Named := by
  cases k <;> decide

def matcherRows : List (List Mark) := [
  (typed "\n    ::mlir::PatternRewriter " '&' "rewriter").row,(typed " ::mlir::Operation " '*' "op").row,
  [.letter ' ',.value .param],(typed "\n    ::llvm::StringRef" ' ' "failureStr").row]

def parameterRows : Template → List (List Mark)
  | .verifier k => (verifierParameters k).map Parameter.row
  | .matcher => matcherRows

theorem place_exact (t : Template) : t.parameters = t.parameterRows ∧ 0 < t.place.depth := by
  rw [parameters,heading,place,inFront,t.spelled.property]
  rcases t with (_ | _ | _ | _ | _) | _ <;> decide +kernel

theorem place_within (t : Template) : 0 < t.place.depth := t.place_exact.2

theorem condition_taken (t : Template) : .slot .condition ∈ t.parts := by
  cases t with
  | verifier k => cases k <;> decide
  | matcher => decide

end Template

open Template

theorem Instance.text_around (i : Instance) :
    ∃ earlier opened,
      i.text.toList = written i.slots (earlier ++ i.template.heading ++ openBrace :: opened) ++
        i.slots.condition.toList ++ written i.slots (i.template.behind .condition) ∧
      Whole earlier ∧ Inside opened := by
  obtain ⟨earlier,opened,front,whole,inside⟩ := scope_within i.template.place_within
  refine ⟨earlier,opened,?_,whole,inside⟩
  rw [text,← written_marks,marks_around i.template.condition_taken,written_append,written_cons,List.append_assoc]
  exact congrArg (written i.slots · ++ _) front

theorem Instance.declared_verifier (k : Kind) (slots : Slots) :
    (Instance.mk (.verifier k) slots).declared = (verifierParameters k).map Parameter.name := by
  simp only [declared,(place_exact _).1,parameterRows,List.map_map]
  refine List.map_congr_left ?_
  intro p member
  exact Parameter.declares (verifierParameters_named k p member) slots

theorem Entry.matcherParam_named (e : Entry) {k : Kind} (wanted : k ∈ matcherKinds) :
    ∃ type : String, (e.matcherParam k).1.toList = type.toList ++ ' ' :: k.name.toList := by
  cases k with
  | type => exact ⟨"::mlir::Type",show "::mlir::Type type".toList = _ by decide⟩
  | attr => exact ⟨"::mlir::Attribute",show "::mlir::Attribute attr".toList = _ by decide⟩
  | prop =>
    simp only [matcherParam]
    cases e.constraint.interface with
    | some interface => exact ⟨interface,String.toList_append⟩
    | none => exact ⟨"T",by decide⟩
  | successor => exact absurd wanted (by decide)
  | region => exact absurd wanted (by decide)

theorem Kind.name_chars (k : Kind) : ∀ c ∈ k.name.toList, isNameChar c = true := by
  refine List.all_eq_true.mp ?_
  cases k <;> decide

theorem Entry.declared_matcher (e : Entry) {k : Kind} (wanted : k ∈ matcherKinds) :
    (e.matcher k).declared = ["rewriter","op",k.name,"failureStr"] := by
  obtain ⟨type,param⟩ := e.matcherParam_named wanted
  have own : lastWord (written (e.matcher k).slots [.letter ' ',.value .param]) = k.name := by
    have row : written (e.matcher k).slots [.letter ' ',.value .param] = (' ' :: type.toList) ++ ' ' :: k.name.toList := by
      simp only [written_cons,Mark.written,Slots.get,Entry.matcher,Entry.matcherIn,Entry.slots,param]
      simp [written]
    rw [row]
    exact lastWord_behind _ (by decide) k.name_chars
  have listing : (e.matcher k).template.parameters = matcherRows := Template.matcher.place_exact.1
  rw [Instance.declared,listing,matcherRows]
  simp only [List.map_cons,List.map_nil,own]
  rw [Parameter.declares (by decide),Parameter.declares (by decide),Parameter.declares (by decide)]
  rfl

namespace Constraint

def Brings (c : Constraint) (b : Bindings) (v : String) : Prop :=
  ∃ name value, c.Mentions name ∧ b.get? name = some value ∧ lastWord value.toList = v

theorem verifier_brings (c : Constraint) (k : Kind) (v : String) :
    c.Brings (verifierBindings k) v ↔ (c.Mentions selfName ∧ v = k.name) ∨ (c.Mentions opName ∧ v = "op") := by
  have word : lastWord k.name.toList = k.name := by cases k <;> decide
  have expression : lastWord operationExpression.toList = "op" := by decide
  constructor
  · rintro ⟨name,value,used,bound,rfl⟩
    rw [verifierBindings,Bindings.get_bind,Bindings.get_bind,Bindings.get_empty] at bound
    split at bound
    · rename_i isOp
      subst isOp
      cases bound
      exact .inr ⟨used,expression⟩
    · split at bound
      · rename_i isSelf
        subst isSelf
        cases bound
        exact .inl ⟨used,word⟩
      · cases bound
  · rintro (⟨used,rfl⟩ | ⟨used,rfl⟩)
    · exact ⟨selfName,k.name,used,rfl,word⟩
    · exact ⟨opName,operationExpression,used,rfl,expression⟩

theorem matcher_brings (c : Constraint) (k : Kind) (v : String) :
    c.Brings (matcherBindings k) v ↔
      c.Brings (verifierBindings k) v ∨ (c.Mentions builderName ∧ v = "rewriter") := by
  have expression : lastWord builderExpression.toList = "rewriter" := by decide
  constructor
  · rintro ⟨name,value,used,bound,rfl⟩
    rw [matcherBindings,Bindings.get_bind] at bound
    split at bound
    · rename_i isBuilder
      subst isBuilder
      cases bound
      exact .inr ⟨used,expression⟩
    · exact .inl ⟨name,value,used,bound,rfl⟩
  · rintro (⟨name,value,used,bound,rfl⟩ | ⟨used,rfl⟩)
    · exact ⟨name,value,used,matcherBindings_extends k name value bound,rfl⟩
    · exact ⟨builderName,builderExpression,used,rfl,expression⟩

end Constraint

-- The function with the condition in its body declares all that comes into the
-- condition, except that the one for attributes and the one for properties do
-- not know the operation: only the second function of these has it.
theorem conditions_declared_exact (e : Entry) :
    (∀ i : Instance, ∃ earlier opened,
      i.text.toList = written i.slots (earlier ++ i.template.heading ++ openBrace :: opened) ++
        i.slots.condition.toList ++ written i.slots (i.template.behind .condition) ∧
      Whole earlier ∧ Inside opened) ∧
    (∀ k v, e.constraint.Brings (verifierBindings k) v →
      (v ∈ (e.verifier k).declared ↔ (k = .attr ∨ k = .prop → v ≠ "op"))) ∧
    (∀ k, e.constraint.Brings (verifierBindings k) "op" ↔ e.constraint.Mentions opName) ∧
    ∀ k ∈ matcherKinds, ∀ v, e.constraint.Brings (matcherBindings k) v → v ∈ (e.matcher k).declared := by
  have declared : ∀ k, (e.verifier k).declared = (verifierParameters k).map Parameter.name :=
    fun k => Instance.declared_verifier k _
  refine ⟨Instance.text_around,?_,?_,?_⟩
  · intro k v brought
    rw [declared]
    rcases (e.constraint.verifier_brings k v).mp brought with ⟨_,rfl⟩ | ⟨_,rfl⟩
    · cases k <;> decide
    · cases k <;> decide
  · intro k
    have apart : "op" ≠ k.name := by cases k <;> decide
    simp [Constraint.verifier_brings,apart]
  · intro k wanted v brought
    rw [e.declared_matcher wanted]
    rcases (e.constraint.matcher_brings k v).mp brought with known | ⟨_,rfl⟩
    · rcases (e.constraint.verifier_brings k v).mp known with ⟨_,rfl⟩ | ⟨_,rfl⟩
      · simp
      · simp
    · simp

def counted : Constraint := {
  condition := "$_self.size() == $_op.getNumOperands()"
  summary := "one element for each operand"
  interfaceType := some "::llvm::ArrayRef<int64_t>"}
def countedEntry : Entry := ⟨counted,"__mlir_ods_local_attr_constraint_Ops1"⟩

theorem counted_mentions : counted.Mentions selfName ∧ counted.Mentions opName :=
  ⟨(counted.mentions_exact _).mpr (by decide),(counted.mentions_exact _).mpr (by decide)⟩

theorem conditions_declared_exact_counted :
    counted.Brings (verifierBindings .region) "op" ∧ "op" ∈ (countedEntry.verifier .region).declared ∧
    counted.Brings (verifierBindings .attr) "attr" ∧ "attr" ∈ (countedEntry.verifier .attr).declared ∧
    .attr ∈ matcherKinds ∧ counted.Brings (matcherBindings .attr) "op" ∧ "op" ∈ (countedEntry.matcher .attr).declared := by
  obtain ⟨usesSelf,usesOp⟩ := counted_mentions
  have region : counted.Brings (verifierBindings .region) "op" := (counted.verifier_brings _ _).mpr (.inr ⟨usesOp,rfl⟩)
  have attr : counted.Brings (verifierBindings .attr) "attr" := (counted.verifier_brings _ _).mpr (.inl ⟨usesSelf,rfl⟩)
  have matched : counted.Brings (matcherBindings .attr) "op" :=
    (counted.matcher_brings _ _).mpr (.inl ((counted.verifier_brings _ _).mpr (.inr ⟨usesOp,rfl⟩)))
  have wanted : .attr ∈ matcherKinds := by decide
  obtain ⟨_,verifiers,_,matchers⟩ := conditions_declared_exact countedEntry
  exact ⟨region,(verifiers .region _ region).mpr (by decide),attr,(verifiers .attr _ attr).mpr (by decide),
    wanted,matched,matchers .attr wanted _ matched⟩

-- There is no operation to count the operands of.
theorem operation_undeclared :
    (counted.hoistable .attr = true ∧ (countedEntry.verifier .attr).slots.condition = "attr.size() == *op.getNumOperands()" ∧
      counted.Brings (verifierBindings .attr) "op" ∧ "op" ∉ (countedEntry.verifier .attr).declared) ∧
    (counted.hoistable .prop = true ∧ (countedEntry.verifier .prop).slots.condition = "prop.size() == *op.getNumOperands()" ∧
      counted.Brings (verifierBindings .prop) "op" ∧ "op" ∉ (countedEntry.verifier .prop).declared) := by
  have brought : ∀ k, counted.Brings (verifierBindings k) "op" :=
    fun k => (counted.verifier_brings k _).mpr (.inr ⟨counted_mentions.2,rfl⟩)
  have declared : ∀ k, (countedEntry.verifier k).declared = (verifierParameters k).map Parameter.name :=
    fun k => Instance.declared_verifier k _
  refine ⟨⟨by decide,by decide,brought .attr,?_⟩,⟨by decide,by decide,brought .prop,?_⟩⟩
  · rw [declared]
    decide
  · rw [declared]
    decide

end SharedVerifiers
