import SharedVerifiers.Emission
import SharedVerifiers.Proofs.Collecting
import SharedVerifiers.Proofs.Delivery
import SharedVerifiers.Proofs.Gathered
namespace SharedVerifiers

-- What may be asked of one unit. Every emission has a sink of its own, in any
-- state; it may fail at any byte.
inductive Call where
  | collect (operations : List Operation)
  | emitVerifiers {σ : Type} (k : Sink σ) (s : σ)
  | emitMatchers (leaves : List Leaf) {σ : Type} (k : Sink σ) (s : σ)

namespace Call

def after (t : Tables) : Call → Tables
  | .collect operations => t.collectOperations operations
  | .emitVerifiers _ _ => t
  | .emitMatchers leaves k s => (t.emitMatchers leaves k s).1

def offers : Call → List (Kind × Constraint)
  | .collect operations => Operation.offers operations
  | .emitVerifiers _ _ => []
  | .emitMatchers leaves _ _ => Leaf.offers leaves

theorem after_offers (t : Tables) (call : Call) : call.after t = t.collectAll call.offers := by
  cases call <;> rfl

end Call

def session (source : String) (options : Options) (calls : List Call) : Tables :=
  calls.foldl Call.after (Tables.ofSource source options)

def Collected (calls : List Call) (k : Kind) (c : Constraint) : Prop :=
  ∃ operations, .collect operations ∈ calls ∧ ∃ op ∈ operations, op.Carries k c

def Passed (calls : List Call) (l : Leaf) : Prop :=
  ∃ leaves, ∃ (σ : Type) (k : Sink σ) (s : σ), .emitMatchers leaves k s ∈ calls ∧ l ∈ leaves

theorem mem_session_offers (calls : List Call) (k : Kind) (c : Constraint) :
    (k,c) ∈ calls.flatMap Call.offers ↔
      (Collected calls k c ∧ c.hasPredicate = true ∧ c.hoistable k = true) ∨
      ((∃ l, Passed calls l ∧ l.kind = k ∧ l.constraint = c) ∧ c.hasPredicate = true ∧ c.matchable k = true) := by
  rw [List.mem_flatMap]
  constructor
  · rintro ⟨call,asked,offered⟩
    cases call with
    | collect operations =>
      obtain ⟨carried,rest⟩ := (Operation.mem_offers operations k c).mp offered
      exact .inl ⟨⟨operations,asked,carried⟩,rest⟩
    | emitVerifiers sink s => cases offered
    | emitMatchers leaves sink s =>
      obtain ⟨⟨l,given,same⟩,rest⟩ := (Leaf.mem_offers leaves k c).mp offered
      exact .inr ⟨⟨l,⟨leaves,_,sink,s,asked,given⟩,same⟩,rest⟩
  · rintro (⟨⟨operations,asked,carried⟩,rest⟩ | ⟨⟨l,⟨leaves,_,sink,s,asked,given⟩,same⟩,rest⟩)
    · exact ⟨_,asked,(Operation.mem_offers operations k c).mpr ⟨carried,rest⟩⟩
    · exact ⟨_,asked,(Leaf.mem_offers leaves k c).mpr ⟨⟨l,given,same⟩,rest⟩⟩

-- A session is one long collection of all that its calls offer.
theorem session_offers (source : String) (options : Options) (calls : List Call) :
    session source options calls = gathered source options (calls.flatMap Call.offers) :=
  Tables.foldl_offers Call.after_offers _ calls

theorem session_snoc (source : String) (options : Options) (calls : List Call) (call : Call) :
    session source options (calls ++ [call]) = call.after (session source options calls) := by
  simp [session]

theorem session_entries (source : String) (options : Options) (calls : List Call) (k : Kind) :
    ((session source options calls).registry k).entries =
      (UnitNames.ofSource source options).entries k 1
        (Constraint.newcomers [] (k.select (calls.flatMap Call.offers))) := by
  rw [session_offers,gathered_entries]

theorem session_known (source : String) (options : Options) (calls : List Call) (k : Kind) (asked : Identity) :
    asked ∈ ((session source options calls).registry k).known ↔
      ∃ c, (k,c) ∈ calls.flatMap Call.offers ∧ c.identity = asked := by
  rw [session_offers,gathered_known]

theorem session_entry_offered {source : String} {options : Options} {calls : List Call} {k : Kind} {e : Entry}
    (member : e ∈ ((session source options calls).registry k).entries) :
    (k,e.constraint) ∈ calls.flatMap Call.offers := by
  rw [session_offers] at member
  exact gathered_entry_offered member

theorem session_names_distinct (source : String) (options : Options) (calls : List Call) (kinds : List Kind)
    (distinct : kinds.Nodup) :
    (kinds.flatMap fun k => ((session source options calls).registry k).entries.map Entry.name).Nodup := by
  rw [session_offers]
  exact gathered_names_distinct _ _ _ kinds distinct

end SharedVerifiers
