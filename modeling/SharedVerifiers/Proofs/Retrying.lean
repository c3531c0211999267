import SharedVerifiers.Proofs.Absorption
import SharedVerifiers.Proofs.Arrival
import SharedVerifiers.Proofs.Matchers
namespace SharedVerifiers

inductive Call.Retries (leaves : List Leaf) : Call → Prop where
  | matchers {σ : Type} (k : Sink σ) (s : σ) : Retries leaves (.emitMatchers leaves k s)
  | verifiers {σ : Type} (k : Sink σ) (s : σ) : Retries leaves (.emitVerifiers k s)

namespace Tables

theorem collectLeaves_again (t : Tables) (leaves : List Leaf) :
    (t.collectLeaves leaves).collectLeaves leaves = t.collectLeaves leaves :=
  (t.collectAll_covers (Leaf.offers leaves)).absorbed

-- Whether the leaves are in already makes no difference to a unit that is going
-- to collect them.
theorem retries_collected (t : Tables) {leaves : List Leaf} {call : Call} (retries : call.Retries leaves) :
    (call.after t).collectLeaves leaves = t.collectLeaves leaves := by
  cases retries with
  | matchers k s => exact t.collectLeaves_again leaves
  | verifiers k s => rfl

theorem attempts_collected (t : Tables) {leaves : List Leaf} {attempts : List Call}
    (retrying : ∀ call ∈ attempts, call.Retries leaves) :
    (attempts.foldl Call.after t).collectLeaves leaves = t.collectLeaves leaves := by
  induction attempts generalizing t with
  | nil => rfl
  | cons call rest ih =>
    have others : ∀ later ∈ rest, later.Retries leaves := fun later asked => retrying later (List.mem_cons_of_mem _ asked)
    rw [List.foldl_cons,ih (call.after t) others]
    exact t.retries_collected (retrying call List.mem_cons_self)

variable {σ : Type}

theorem emitMatchers_collected {t later : Tables} {leaves : List Leaf}
    (same : later.collectLeaves leaves = t.collectLeaves leaves) (k : Sink σ) (s : σ) :
    later.emitMatchers leaves k s = t.emitMatchers leaves k s := by
  unfold emitMatchers
  rw [same]

-- An attempt takes the leaves in, however it ends, and leaves nothing else
-- behind. So the next is the first over again: to one and the same sink it does
-- the same, and two sinks that take everything get the same from both.
theorem retrying_exact (t : Tables) (leaves : List Leaf) :
    (∀ {σ : Type} (k : Sink σ) (s : σ), (t.emitMatchers leaves k s).1 = t.collectLeaves leaves) ∧
    ∀ attempts : List Call, (∀ call ∈ attempts, call.Retries leaves) →
      (∀ {σ : Type} (k : Sink σ) (s : σ),
        (attempts.foldl Call.after t).emitMatchers leaves k s = t.emitMatchers leaves k s) ∧
      ∀ {σ τ : Type} {first : Sink σ} {again : Sink τ}, first.Accepting → again.Accepting → ∀ (s : σ) (start : τ),
        let once := t.emitMatchers leaves first s
        let retried := (attempts.foldl Call.after t).emitMatchers leaves again start
        retried.1 = once.1 ∧ retried.2.taken = once.2.taken ∧
          ∃ report, once.2.outcome = .ok report ∧ retried.2.outcome = .ok report := by
  refine ⟨fun _ _ => rfl,?_⟩
  intro attempts retrying
  have everywhere : ∀ {σ : Type} (k : Sink σ) (s : σ),
      (attempts.foldl Call.after t).emitMatchers leaves k s = t.emitMatchers leaves k s :=
    emitMatchers_collected (t.attempts_collected retrying)
  refine ⟨everywhere,?_⟩
  intro σ τ first again accepting accepts s start
  dsimp only
  rw [everywhere again start]
  have once := (t.collectLeaves leaves).emit_accepted .pattern (t.collectLeaves leaves).matchers
    ((t.collectLeaves leaves).counts matcherKinds) accepting s
  have retried := (t.collectLeaves leaves).emit_accepted .pattern (t.collectLeaves leaves).matchers
    ((t.collectLeaves leaves).counts matcherKinds) accepts start
  exact ⟨rfl,retried.1.trans once.1.symm,_,once.2,retried.2⟩

end Tables

def newUnit : Tables := .ofSource "Retry.td" {}

def numberLeaves : List Leaf := [⟨.operand,numberType⟩,⟨.operand,reworded⟩]

def brokenAttempts : List Call := [
  .emitMatchers numberLeaves tightSink.sink 0,
  .emitVerifiers tightSink.sink 0,
  .emitMatchers numberLeaves tightSink.sink 7]

theorem retrying_exact_broken :
    (∀ call ∈ brokenAttempts, call.Retries numberLeaves) ∧
    (∃ why, (newUnit.emitMatchers numberLeaves tightSink.sink 0).2.outcome = .error why) ∧
    (newUnit.emitMatchers numberLeaves tightSink.sink 0).1 = newUnit.collectLeaves numberLeaves ∧
    ((brokenAttempts.foldl Call.after newUnit).emitMatchers numberLeaves ({} : Capacity).sink 0).2.taken =
      (newUnit.emitMatchers numberLeaves ({chunk := some 1} : Capacity).sink 0).2.taken := by
  have accepting : ({} : Capacity).sink.Accepting := Capacity.unlimited_accepting _ (by decide) rfl rfl
  have bytewise : ({chunk := some 1} : Capacity).sink.Accepting := Capacity.unlimited_accepting _ (by decide) rfl rfl
  have retrying : ∀ call ∈ brokenAttempts, call.Retries numberLeaves := by
    intro call asked
    simp only [brokenAttempts,List.mem_cons,List.not_mem_nil,or_false] at asked
    rcases asked with rfl | rfl | rfl
    · exact .matchers _ _
    · exact .verifiers _ _
    · exact .matchers _ _
  obtain ⟨kept,again⟩ := newUnit.retrying_exact numberLeaves
  have same := (again brokenAttempts retrying).2 bytewise accepting 0 0
  refine ⟨retrying,?_,kept _ _,same.2.1⟩
  have limited : tightSink.sink.Limited (10 - ·) := tightSink.limited (by decide) rfl rfl
  have fits := ((newUnit.collectLeaves numberLeaves).emit_limited .pattern (newUnit.collectLeaves numberLeaves).matchers
    ((newUnit.collectLeaves numberLeaves).counts matcherKinds) 0 limited).2
  have row : (newUnit.collectLeaves numberLeaves).matchers =
      [⟨.matcher,matcherSlots .type ⟨numberType,"__mlir_ods_local_type_constraint_Retry1"⟩⟩] := by
    rw [newUnit,show Tables.ofSource "Retry.td" {} = session "Retry.td" {} [] from rfl,collectLeaves_matchers]
    decide
  have front : (Text.bytes "\nstatic ::llvm::LogicalResult ").length = 30 := by decide
  have long : 10 < (Instance.rowText (newUnit.collectLeaves numberLeaves).matchers).length := by
    rw [row]
    simp only [Instance.rowText,List.flatMap_cons,Instance.text,Template.render,Text.bytes_join,Template.parts,
      Template.matcherParts,List.map_cons,Template.Part.render,List.length_append,front]
    omega
  cases outcome : (newUnit.emitMatchers numberLeaves tightSink.sink 0).2.outcome with
  | ok given => exact absurd (fits.mp ⟨given,outcome⟩) (Nat.not_le.mpr long)
  | error why => exact ⟨why,rfl⟩

end SharedVerifiers
