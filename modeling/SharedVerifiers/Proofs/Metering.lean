import SharedVerifiers.Emission
import SharedVerifiers.Proofs.Journal
namespace SharedVerifiers

namespace Meter

def note (m : Meter) : Event → Meter
  | .write offered (.ok n) => m.passed offered n
  | _ => m

structure Follows (m : Meter) (taken : List UInt8) : Prop where
  bytes : m.bytes = taken.length
  fed : m.digest.read = taken

theorem unused_follows : ({} : Meter).Follows [] := ⟨rfl,rfl⟩

theorem Follows.passed {m : Meter} {front buffer : List UInt8} {n : Nat} (follows : m.Follows front)
    (fits : n ≤ buffer.length) : (m.passed buffer n).Follows (front ++ buffer.take n) := by
  constructor
  · rw [List.length_append,List.length_take_of_le fits,← follows.bytes]
    rfl
  · rw [← follows.fed]
    exact m.digest.read_update (buffer.take n)

theorem Follows.stopped {m : Meter} {front offered : List UInt8} {answer : Except String Nat} {why : WriteFailure}
    (follows : m.Follows front) (shown : (Event.write offered answer).failure? = some why) :
    (m.note (.write offered answer)).Follows front := by
  cases answer with
  | error reason => exact follows
  | ok n =>
    cases n with
    | zero =>
      have same := follows.passed (Nat.zero_le offered.length)
      rwa [List.take_zero,List.append_nil] at same
    | succ => cases shown

end Meter

-- What is counted and hashed is what the sink took, at every write.
theorem Written.follows {whole : List UInt8} {journal : List Event} {failure : Option WriteFailure}
    (written : Written whole journal failure) {m : Meter} {front : List UInt8} (follows : m.Follows front) :
    (journal.foldl Meter.note m).Follows (front ++ received journal) := by
  induction written generalizing m front with
  | done => simpa [received] using follows
  | @stopped whole offered answer why part offers shown =>
    have nothing : received [.write offered answer] = [] := by simp [received,Event.received_stopped shown]
    rw [nothing,List.append_nil]
    exact follows.stopped shown
  | @took whole offered n later failure part fits _ ih =>
    have onward := ih (follows.passed fits)
    rw [List.append_assoc] at onward
    exact onward

theorem Delivered.follows {whole : List UInt8} {journal : List Event} {failure : Option WriteFailure}
    (delivered : Delivered whole journal failure) {m : Meter} {front : List UInt8} (follows : m.Follows front) :
    (journal.foldl Meter.note m).Follows (front ++ received journal) := by
  cases delivered with
  | cut written => exact written.follows follows
  | flushed written answer =>
    rw [received_flush,List.foldl_append]
    exact written.follows follows

namespace Sink
variable {σ : Type}

theorem metered_watched (k : Sink σ) : k.metered = k.watched Meter.note := by
  have write : k.metered.write = (k.watched Meter.note).write := by
    funext s buffer
    unfold metered watched
    dsimp only
    split <;> rename_i given <;> rw [given] <;> rfl
  have flush : k.metered.flush = (k.watched Meter.note).flush := rfl
  generalize k.metered = metered at write flush
  generalize k.watched Meter.note = watched at write flush
  cases metered
  cases watched
  cases write
  cases flush
  rfl

theorem deliver_metered (k : Sink σ) (s : σ) (buffers : List (List UInt8)) :
    ∃ m : Meter, k.metered.deliver (s,{}) buffers = (k.deliver s buffers).recorded m ∧
      m.Follows (k.deliver s buffers).taken := by
  obtain ⟨journal,same,taken,delivered⟩ := k.deliver_watched Meter.note s {} buffers
  rw [← metered_watched] at same
  refine ⟨_,same,?_⟩
  rw [← taken]
  exact delivered.follows Meter.unused_follows

end Sink

theorem Tables.emit_taken {σ : Type} (t : Tables) (entryPoint : EntryPoint) (row : List Instance) (counts : Counts)
    (k : Sink σ) (s : σ) : t.emit entryPoint row counts k s =
      let stretch := k.deliver s (row.map fun i => Text.bytes i.text)
      match stretch.failure with
      | some failure => ⟨stretch.sink,stretch.taken,.error failure⟩
      | none => ⟨stretch.sink,stretch.taken,.ok {
          label := t.label
          entryPoint := entryPoint
          instances := counts
          bytes := stretch.taken.length
          outputHash := Report.hashOf stretch.taken}⟩ := by
  obtain ⟨m,same,follows⟩ := k.deliver_metered s (row.map fun i => Text.bytes i.text)
  unfold emit
  cases ended : (k.deliver s (row.map fun i => Text.bytes i.text)).failure with
  | some why => simp only [same,Stretch.recorded,ended]
  | none => simp only [same,Stretch.recorded,ended,follows.bytes,Digest.Running.finish,follows.fed,Report.hashOf]

end SharedVerifiers
