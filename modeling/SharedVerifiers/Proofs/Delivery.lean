import SharedVerifiers.Proofs.Journal
namespace SharedVerifiers

-- Nothing is assumed about how many writes it takes.
structure Sink.Accepting {σ : Type} (k : Sink σ) : Prop where
  takes : ∀ s buffer, buffer ≠ [] → ∃ after n, k.write s buffer = (after,.ok (n + 1))
  flushes : ∀ s, ∃ after, k.flush s = (after,.ok ())

namespace Sink
variable {σ : Type}

theorem writeAll_complete (k : Sink σ) (s : σ) (buffer : List UInt8) :
    (k.writeAll s buffer).failure = none ↔ (k.writeAll s buffer).taken = buffer := by
  obtain ⟨journal,_,taken,written⟩ := k.writeAll_watched (fun _ _ => ()) s () buffer
  rw [← taken]
  exact written.complete

theorem writeEach_complete (k : Sink σ) (s : σ) (buffers : List (List UInt8)) :
    (k.writeEach s buffers).failure = none ↔ (k.writeEach s buffers).taken = buffers.flatten := by
  obtain ⟨journal,_,taken,written⟩ := k.writeEach_watched (fun _ _ => ()) s () buffers
  rw [← taken]
  exact written.complete

theorem deliver_whole (k : Sink σ) (s : σ) (buffers : List (List UInt8))
    (whole : (k.deliver s buffers).failure = none) :
    (k.deliver s buffers).taken = buffers.flatten := by
  obtain ⟨journal,_,taken,delivered⟩ := k.deliver_watched (fun _ _ => ()) s () buffers
  rw [← taken]
  exact (delivered.arrived_exact.mp whole).1

namespace Accepting
variable {k : Sink σ}

theorem writeAll (accepting : k.Accepting) (s : σ) (buffer : List UInt8) :
    (k.writeAll s buffer).failure = none := by
  fun_induction Sink.writeAll k s buffer with
  | case1 => rfl
  | case2 s buffer offered after reason refused =>
    obtain ⟨_,_,took⟩ := accepting.takes s buffer offered
    simp [refused] at took
  | case3 s buffer offered after nothing =>
    obtain ⟨_,_,took⟩ := accepting.takes s buffer offered
    simp [nothing] at took
  | case4 s buffer offered after n took rest ih => exact ih

theorem writeEach (accepting : k.Accepting) (s : σ) (buffers : List (List UInt8)) :
    (k.writeEach s buffers).failure = none := by
  induction buffers generalizing s with
  | nil => rfl
  | cons buffer rest ih =>
    rw [writeEach_went (accepting.writeAll s buffer)]
    exact ih _

theorem deliver (accepting : k.Accepting) (s : σ) (buffers : List (List UInt8)) :
    (k.deliver s buffers).failure = none ∧ (k.deliver s buffers).taken = buffers.flatten := by
  have arrived : (k.deliver s buffers).failure = none := by
    obtain ⟨after,flushed⟩ := accepting.flushes (k.writeEach s buffers).sink
    unfold Sink.deliver
    simp only [accepting.writeEach s buffers,flushed]
  exact ⟨arrived,k.deliver_whole s buffers arrived⟩

end Accepting

structure Limited (k : Sink σ) (room : σ → Nat) : Prop where
  takes : ∀ s buffer, buffer ≠ [] → 0 < room s →
    ∃ after n, k.write s buffer = (after,.ok (n + 1)) ∧ room s = room after + (n + 1)
  full : ∀ s buffer, buffer ≠ [] → room s = 0 →
    ∃ after, k.write s buffer = (after,.ok 0) ∨ ∃ reason, k.write s buffer = (after,.error reason)
  flushes : ∀ s, ∃ after, k.flush s = (after,.ok ())

namespace Limited
variable {k : Sink σ} {room : σ → Nat}

theorem moves (limited : k.Limited room) {s after : σ} {buffer : List UInt8} {n : Nat} (offers : buffer ≠ [])
    (took : k.write s buffer = (after,.ok (n + 1))) : room s = room after + (n + 1) := by
  rcases Nat.eq_zero_or_pos (room s) with full | left
  · obtain ⟨_,nothing | ⟨_,refused⟩⟩ := limited.full s buffer offers full
    · exact nomatch took.symm.trans nothing
    · exact nomatch took.symm.trans refused
  · obtain ⟨_,m,given,room⟩ := limited.takes s buffer offers left
    obtain ⟨rfl,same⟩ := Prod.mk.inj (given.symm.trans took)
    cases same
    exact room

theorem stops (limited : k.Limited room) {s : σ} {buffer : List UInt8} (offers : buffer ≠ [])
    (stuck : ∀ after n, k.write s buffer ≠ (after,.ok (n + 1))) : room s = 0 := by
  rcases Nat.eq_zero_or_pos (room s) with full | left
  · exact full
  · obtain ⟨after,n,took,_⟩ := limited.takes s buffer offers left
    exact absurd took (stuck after n)

theorem writeAll (limited : k.Limited room) (s : σ) (buffer : List UInt8) :
    (k.writeAll s buffer).taken = buffer.take (room s) ∧
      ((k.writeAll s buffer).failure = none → room s = room (k.writeAll s buffer).sink + buffer.length) := by
  fun_induction Sink.writeAll k s buffer with
  | case1 => simp
  | case2 s buffer offers after reason refused =>
    have full : room s = 0 := limited.stops offers (by simp [refused])
    simp [full]
  | case3 s buffer offers after nothing =>
    have full : room s = 0 := limited.stops offers (by simp [nothing])
    simp [full]
  | case4 s buffer offers after n took rest ih =>
    have fits := k.write_le s buffer after (n + 1) took
    have left := limited.moves offers took
    obtain ⟨taken,lasts⟩ := ih
    constructor
    · change buffer.take (n + 1) ++ rest.taken = _
      have split : buffer.take (n + 1 + room after) = buffer.take (n + 1) ++ (buffer.drop (n + 1)).take (room after) :=
        List.take_add
      rw [taken,left,Nat.add_comm (room after),split]
    · intro went
      have behind := lasts went
      rw [List.length_drop] at behind
      change room s = room (k.writeAll after (buffer.drop (n + 1))).sink + buffer.length
      omega

theorem writeEach (limited : k.Limited room) (s : σ) (buffers : List (List UInt8)) :
    (k.writeEach s buffers).taken = buffers.flatten.take (room s) := by
  induction buffers generalizing s with
  | nil => simp [Sink.writeEach]
  | cons buffer rest ih =>
    obtain ⟨taken,lasts⟩ := limited.writeAll s buffer
    cases ended : (k.writeAll s buffer).failure with
    | some why =>
      have cut : (k.writeAll s buffer).taken ≠ buffer := by
        rw [Ne,← k.writeAll_complete s buffer,ended]
        exact Option.some_ne_none why
      have short : room s < buffer.length := by
        rw [taken] at cut
        exact Nat.lt_of_not_le fun fits => cut (List.take_of_length_le fits)
      rw [writeEach_failed ended,taken,List.flatten_cons,List.take_append_of_le_length (Nat.le_of_lt short)]
    | none =>
      have room := lasts ended
      rw [writeEach_went ended]
      change (k.writeAll s buffer).taken ++ _ = _
      rw [taken,ih,List.flatten_cons,List.take_of_length_le (by omega),room,Nat.add_comm,List.take_length_add_append]

theorem deliver (limited : k.Limited room) (s : σ) (buffers : List (List UInt8)) :
    (k.deliver s buffers).taken = buffers.flatten.take (room s) ∧
      ((k.deliver s buffers).failure = none ↔ buffers.flatten.length ≤ room s) := by
  have taken := limited.writeEach s buffers
  have complete : (k.writeEach s buffers).failure = none ↔ buffers.flatten.length ≤ room s := by
    rw [writeEach_complete,taken]
    refine ⟨?_,List.take_of_length_le⟩
    intro whole
    have length := congrArg List.length whole
    rw [List.length_take] at length
    omega
  cases ended : (k.writeEach s buffers).failure with
  | some why =>
    rw [deliver_failed ended]
    exact ⟨taken,complete⟩
  | none =>
    obtain ⟨after,given⟩ := limited.flushes (k.writeEach s buffers).sink
    rw [deliver_went ended given]
    exact ⟨taken,fun _ => complete.mp ended,fun _ => rfl⟩

end Limited

end Sink

namespace Capacity

theorem atMost_pos {bound : Option Nat} {n : Nat} (loose : bound ≠ some 0) (offers : 0 < n) : 0 < atMost bound n := by
  cases bound with
  | none => exact offers
  | some most =>
    have positive : most ≠ 0 := fun none => loose (congrArg some none)
    exact Nat.lt_min.mpr ⟨Nat.pos_of_ne_zero positive,offers⟩

theorem write_moves (c : Capacity) (held : Nat) {buffer : List UInt8} (moving : c.chunk ≠ some 0)
    (roomy : c.limit.map (· - held) ≠ some 0) (offers : buffer ≠ []) :
    ∃ n, c.takes held buffer.length = n + 1 ∧ c.sink.write held buffer = (held + (n + 1),.ok (n + 1)) := by
  have positive : 0 < c.takes held buffer.length :=
    atMost_pos moving (atMost_pos roomy (List.length_pos_iff.mpr offers))
  obtain ⟨n,size⟩ := Nat.exists_eq_succ_of_ne_zero (Nat.ne_of_gt positive)
  refine ⟨n,size,?_⟩
  simp [sink,size]

theorem unlimited_accepting (c : Capacity) (moving : c.chunk ≠ some 0) (roomy : c.limit = none)
    (flushing : c.refusesFlush = false) : c.sink.Accepting := by
  refine ⟨?_,?_⟩
  · intro held buffer offers
    obtain ⟨n,_,took⟩ := c.write_moves held moving (by simp [roomy]) offers
    exact ⟨_,n,took⟩
  · intro held
    exact ⟨held,by simp [sink,flushing]⟩

theorem limited (c : Capacity) {most : Nat} (moving : c.chunk ≠ some 0) (bound : c.limit = some most)
    (flushing : c.refusesFlush = false) : c.sink.Limited (most - ·) := by
  refine ⟨?_,?_,?_⟩
  · intro held buffer offers left
    obtain ⟨n,size,took⟩ := c.write_moves held moving
      (by simpa [bound] using Nat.ne_of_gt left) offers
    have fits : n + 1 ≤ most - held := by
      rw [← size,takes,bound]
      exact Nat.le_trans (atMost_le _ _) (Nat.min_le_left _ _)
    exact ⟨_,n,took,by omega⟩
  · intro held buffer offers full
    have nothing : c.takes held buffer.length = 0 := by
      rw [takes,bound]
      refine Nat.le_zero.mp (Nat.le_trans (atMost_le _ _) ?_)
      exact Nat.le_trans (Nat.min_le_left _ _) (Nat.le_of_eq full)
    cases silent : c.silent with
    | true => exact ⟨held,.inl (by simp [sink,nothing,silent])⟩
    | false => exact ⟨held,.inr ⟨"sink full",by simp [sink,nothing,silent]⟩⟩
  · intro held
    exact ⟨held,by simp [sink,flushing]⟩

end Capacity

end SharedVerifiers
