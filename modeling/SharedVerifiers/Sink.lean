namespace SharedVerifiers

-- A place that bytes go to. One write takes some of a buffer, perhaps none, or
-- fails; nothing more is known of a sink than these answers.
structure Sink (σ : Type) where
  write : σ → List UInt8 → σ × Except String Nat
  flush : σ → σ × Except String Unit
  write_le : ∀ s buffer after n, write s buffer = (after,.ok n) → n ≤ buffer.length

inductive WriteFailure where
  | refused (reason : String)
  | nothingTaken
  | unflushed (reason : String)
deriving DecidableEq,Repr

def WriteFailure.message : WriteFailure → String
  | .refused reason => "Write failed: " ++ reason
  | .nothingTaken => "Write failed: failed to write whole buffer"
  | .unflushed reason => "Write failed: " ++ reason

structure Stretch (σ : Type) where
  sink : σ
  taken : List UInt8
  failure : Option WriteFailure

namespace Sink
variable {σ : Type}

def writeAll (k : Sink σ) (s : σ) (buffer : List UInt8) : Stretch σ :=
  if buffer = [] then ⟨s,[],none⟩
  else match k.write s buffer with
    | (after,.error reason) => ⟨after,[],some (.refused reason)⟩
    | (after,.ok 0) => ⟨after,[],some .nothingTaken⟩
    | (after,.ok (n + 1)) =>
      let rest := writeAll k after (buffer.drop (n + 1))
      {rest with taken := buffer.take (n + 1) ++ rest.taken}
termination_by buffer.length
decreasing_by
  rename_i some
  rw [List.length_drop]
  have := List.length_pos_iff.mpr some
  omega

def writeEach (k : Sink σ) (s : σ) : List (List UInt8) → Stretch σ
  | [] => ⟨s,[],none⟩
  | buffer :: rest =>
    let first := k.writeAll s buffer
    match first.failure with
    | some _ => first
    | none =>
      let later := k.writeEach first.sink rest
      {later with taken := first.taken ++ later.taken}

def deliver (k : Sink σ) (s : σ) (buffers : List (List UInt8)) : Stretch σ :=
  let written := k.writeEach s buffers
  match written.failure with
  | some _ => written
  | none => match k.flush written.sink with
    | (after,.ok _) => {written with sink := after}
    | (after,.error reason) => {written with sink := after,failure := some (.unflushed reason)}

end Sink

-- It takes at most `chunk` at a time; when it can take nothing it fails, or says
-- that it took nothing.
structure Capacity where
  chunk : Option Nat := none
  limit : Option Nat := none
  silent : Bool := false
  refusesFlush : Bool := false
deriving DecidableEq,Repr

namespace Capacity

def atMost (bound : Option Nat) (n : Nat) : Nat :=
  match bound with
  | some most => min most n
  | none => n

theorem atMost_le (bound : Option Nat) (n : Nat) : atMost bound n ≤ n := by
  cases bound with
  | none => exact Nat.le_refl n
  | some most => exact Nat.min_le_right most n

def takes (c : Capacity) (held offered : Nat) : Nat :=
  atMost c.chunk (atMost (c.limit.map (· - held)) offered)

def sink (c : Capacity) : Sink Nat where
  write held buffer :=
    let n := c.takes held buffer.length
    if n = 0 ∧ c.silent = false then (held,.error "sink full") else (held + n,.ok n)
  flush held := if c.refusesFlush then (held,.error "flush refused") else (held,.ok ())
  write_le held buffer after n took := by
    dsimp only at took
    split at took
    · simp at took
    · simp only [Prod.mk.injEq,Except.ok.injEq] at took
      rw [← took.2]
      exact Nat.le_trans (atMost_le _ _) (atMost_le _ _)

end Capacity

end SharedVerifiers
