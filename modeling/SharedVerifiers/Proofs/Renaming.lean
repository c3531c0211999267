import Mathlib.Data.List.Forall2
import SharedVerifiers.Proofs.Arrival
namespace SharedVerifiers

def Instance.nameless (i : Instance) : Instance := {i with slots := {i.slots with name := ""}}

namespace Request

def make (k : Kind) (e : Entry) : Request → Instance
  | .verifiers => e.verifier k
  | .matchers _ => e.matcher k

def offers : Request → List (Kind × Constraint)
  | .verifiers => []
  | .matchers leaves => Leaf.offers leaves

theorem make_name (request : Request) (k : Kind) (e : Entry) : (request.make k e).slots.name = e.name := by
  cases request <;> rfl

theorem make_nameless (request : Request) (k : Kind) (e : Entry) :
    (request.make k e).nameless = request.make k ⟨e.constraint,""⟩ := by
  cases request <;> rfl

end Request

namespace Tables

theorem wanted_make (t : Tables) (request : Request) : t.wanted request =
    request.kinds.flatMap fun k => ((t.prepared request).registry k).entries.map fun e => request.make k e := by
  cases request with
  | verifiers => exact t.verifiers_each
  | matchers leaves => exact (t.collectLeaves leaves).matchers_each

theorem prepared_offers (t : Tables) (request : Request) : t.prepared request = t.collectAll request.offers := by
  cases request <;> rfl

theorem counts_requested (t : Tables) (request : Request) :
    (t.counts request.kinds).toList = request.kinds.map fun k => (k,(t.registry k).size) := by
  cases request with
  | verifiers => exact t.counts_listed (.inl rfl)
  | matchers => exact t.counts_listed (.inr rfl)

end Tables

structure Answer where
  row : List Instance
  taken : List UInt8
  outcome : Except WriteFailure Report

def Tables.answer {σ : Type} (t : Tables) (k : Sink σ) (s : σ) (request : Request) : Answer :=
  ⟨t.wanted request,(t.respond k s request).taken,(t.respond k s request).outcome⟩

def Call.answer? (t : Tables) : Call → Option Answer
  | .collect _ => none
  | .emitVerifiers k s => some (t.answer k s .verifiers)
  | .emitMatchers leaves k s => some (t.answer k s (.matchers leaves))

def answers (t : Tables) : List Call → List Answer
  | [] => []
  | call :: rest => (call.answer? t).toList ++ answers (call.after t) rest

-- Each unit has a sink of its own, and each sink takes everything.
inductive Call.Alike : Call → Call → Prop where
  | collect (operations : List Operation) : Alike (.collect operations) (.collect operations)
  | emitVerifiers {σ τ : Type} {k : Sink σ} {other : Sink τ} (accepting : k.Accepting) (accepts : other.Accepting)
      (s : σ) (start : τ) : Alike (.emitVerifiers k s) (.emitVerifiers other start)
  | emitMatchers (leaves : List Leaf) {σ τ : Type} {k : Sink σ} {other : Sink τ} (accepting : k.Accepting)
      (accepts : other.Accepting) (s : σ) (start : τ) :
      Alike (.emitMatchers leaves k s) (.emitMatchers leaves other start)

def numberedNames (source : String) (options : Options) (instances : Counts) : List String :=
  instances.toList.flatMap fun numbered => (List.range' 1 numbered.2).map fun ordinal =>
    options.namePrefix ++ numbered.1.name ++ "_constraint_" ++
      unitLabel source options.tag options.sourceExtension ++ toString ordinal

structure Answer.Numbered (a : Answer) (source : String) (options : Options) (entryPoint : EntryPoint)
    (instances : Counts) : Prop where
  taken : a.taken = Instance.rowText a.row
  outcome : a.outcome = .ok {
    label := unitLabel source options.tag options.sourceExtension
    entryPoint := entryPoint
    instances := instances
    bytes := (Instance.rowText a.row).length
    outputHash := Report.hashOf (Instance.rowText a.row)}
  names : a.row.map (fun i => i.slots.name) = numberedNames source options instances

structure Answer.Aligned (source other : String) (options choices : Options) (a b : Answer) : Prop where
  rendered : a.row.map Instance.nameless = b.row.map Instance.nameless
  numbered : ∃ entryPoint instances, a.Numbered source options entryPoint instances ∧
    b.Numbered other choices entryPoint instances

section
variable (source : String) (options : Options) (offers : List (Kind × Constraint)) (request : Request)

theorem wanted_nameless : ((gathered source options offers).wanted request).map Instance.nameless =
    request.kinds.flatMap fun k => (Constraint.newcomers [] (k.select (offers ++ request.offers))).map fun c =>
      request.make k ⟨c,""⟩ := by
  rw [Tables.wanted_make,Tables.prepared_offers,gathered_more,List.map_flatMap]
  congr 1
  funext k
  rw [← gathered_constraints source options,Registry.constraints,List.map_map,List.map_map]
  congr 1
  funext e
  exact request.make_nameless k e

theorem wanted_names : ((gathered source options offers).wanted request).map (fun i => i.slots.name) =
    numberedNames source options (((gathered source options offers).prepared request).counts request.kinds) := by
  rw [Tables.wanted_make,numberedNames,Tables.counts_requested,Tables.prepared_offers,gathered_more,List.map_flatMap,
    List.flatMap_map]
  congr 1
  funext k
  rw [List.map_map]
  simp only [Function.comp_def,Request.make_name]
  exact gathered_names source options (offers ++ request.offers) k

theorem requested_counts : ((gathered source options offers).prepared request).counts request.kinds =
    Counts.ofList (request.kinds.map fun k => (k,(Constraint.newcomers [] (k.select (offers ++ request.offers))).length)) := by
  rw [Tables.prepared_offers,gathered_more,Tables.counts]
  simp only [gathered_size]

theorem answer_numbered {σ : Type} {k : Sink σ} (accepting : k.Accepting) (s : σ) :
    ((gathered source options offers).answer k s request).Numbered source options request.entryPoint
      (((gathered source options offers).prepared request).counts request.kinds) := by
  obtain ⟨taken,outcome⟩ := ((gathered source options offers).prepared request).emit_accepted request.entryPoint
    ((gathered source options offers).wanted request)
    (((gathered source options offers).prepared request).counts request.kinds) accepting s
  rw [← Tables.respond_emit] at taken outcome
  have label : ((gathered source options offers).prepared request).label =
      unitLabel source options.tag options.sourceExtension := by
    rw [Tables.prepared_offers,gathered_more,Tables.label,gathered_unit]
    rfl
  rw [label] at outcome
  exact ⟨taken,outcome,wanted_names source options offers request⟩

end

section
variable (source other : String) (options choices : Options)

theorem answer_aligned (offers : List (Kind × Constraint)) (request : Request) {σ τ : Type} {k : Sink σ}
    {rival : Sink τ} (accepting : k.Accepting) (accepts : rival.Accepting) (s : σ) (start : τ) :
    Answer.Aligned source other options choices ((gathered source options offers).answer k s request)
      ((gathered other choices offers).answer rival start request) := by
  refine ⟨?_,request.entryPoint,_,answer_numbered source options offers request accepting s,?_⟩
  · exact (wanted_nameless source options offers request).trans (wanted_nameless other choices offers request).symm
  · rw [requested_counts source options,← requested_counts other choices]
    exact answer_numbered other choices offers request accepts start

theorem after_gathered (offers : List (Kind × Constraint)) (call : Call) :
    call.after (gathered source options offers) = gathered source options (offers ++ call.offers) := by
  rw [call.after_offers,gathered_more]

theorem answers_aligned {first second : List Call} (alike : List.Forall₂ Call.Alike first second)
    (offers : List (Kind × Constraint)) :
    List.Forall₂ (Answer.Aligned source other options choices)
      (answers (gathered source options offers) first) (answers (gathered other choices offers) second) := by
  -- Whatever the call, both units have been offered the same behind it.
  induction alike generalizing offers with
  | nil => exact .nil
  | cons head rest ih =>
    simp only [answers,after_gathered]
    cases head with
    | collect operations => exact ih _
    | emitVerifiers accepting accepts s start =>
      exact .cons (answer_aligned source other options choices offers .verifiers accepting accepts s start) (ih _)
    | emitMatchers leaves accepting accepts s start =>
      exact .cons (answer_aligned source other options choices offers (.matchers leaves) accepting accepts s start) (ih _)

theorem alike_offers {first second : List Call} (alike : List.Forall₂ Call.Alike first second) :
    first.flatMap Call.offers = second.flatMap Call.offers := by
  induction alike with
  | nil => rfl
  | cons head rest ih =>
    rw [List.flatMap_cons,List.flatMap_cons,ih]
    cases head <;> rfl

-- The source and the options reach the names of what is generated, and nothing
-- else of it: neither what is shared nor in which order it comes.
theorem renaming_exact {first second : List Call} (alike : List.Forall₂ Call.Alike first second) :
    (∀ k, ∃ row, ((session source options first).registry k).entries =
        (UnitNames.ofSource source options).entries k 1 row ∧
      ((session other choices second).registry k).entries = (UnitNames.ofSource other choices).entries k 1 row) ∧
    List.Forall₂ (Answer.Aligned source other options choices)
      (answers (Tables.ofSource source options) first) (answers (Tables.ofSource other choices) second) ∧
    ∀ k c, (∃ name, (session source options first).lookup k c = .found name) ↔
      ∃ name, (session other choices second).lookup k c = .found name := by
  refine ⟨?_,answers_aligned source other options choices alike [],?_⟩
  · intro k
    refine ⟨_,session_entries source options first k,?_⟩
    rw [session_entries,alike_offers alike]
  · intro k c
    rw [Tables.lookup_known,Tables.lookup_known,session_known,session_known,alike_offers alike]

end

def numberCalls (c : Capacity) : List Call := [
  .collect twoNumbers.operations,
  .emitMatchers [⟨.prop,operandIndex "a length"⟩] c.sink 0,
  .emitVerifiers c.sink 0]

theorem renaming_exact_numbers :
    List.Forall₂ Call.Alike (numberCalls {}) (numberCalls {chunk := some 1}) ∧
    List.Forall₂ (Answer.Aligned "Numbers.td" "lib/Figures.td" {} {namePrefix := "check_",tag := "A"})
      (answers (.ofSource "Numbers.td" {}) (numberCalls {}))
      (answers (.ofSource "lib/Figures.td" {namePrefix := "check_",tag := "A"}) (numberCalls {chunk := some 1})) ∧
    (∃ name, (session "Numbers.td" {} (numberCalls {})).lookup .type numberType = .found name) ∧
    ∃ name, (session "lib/Figures.td" {namePrefix := "check_",tag := "A"} (numberCalls {chunk := some 1})).lookup
      .type numberType = .found name := by
  have accepting : ({} : Capacity).sink.Accepting := Capacity.unlimited_accepting _ (by decide) rfl rfl
  have accepts : ({chunk := some 1} : Capacity).sink.Accepting := Capacity.unlimited_accepting _ (by decide) rfl rfl
  have alike : List.Forall₂ Call.Alike (numberCalls {}) (numberCalls {chunk := some 1}) :=
    .cons (.collect _) (.cons (.emitMatchers _ accepting accepts 0 0) (.cons (.emitVerifiers accepting accepts 0 0) .nil))
  obtain ⟨_,aligned,found⟩ := renaming_exact "Numbers.td" "lib/Figures.td" {} {namePrefix := "check_",tag := "A"} alike
  have first : ∃ name, (session "Numbers.td" {} (numberCalls {})).lookup .type numberType = .found name :=
    session_offer_found _ _ (by decide)
  exact ⟨alike,aligned,first,(found _ _).mp first⟩

end SharedVerifiers
