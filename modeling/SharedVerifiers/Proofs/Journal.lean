import SharedVerifiers.Sink
namespace SharedVerifiers

inductive Event where
  | write (offered : List UInt8) (answer : Except String Nat)
  | flush (answer : Except String Unit)

namespace Event

def received : Event → List UInt8
  | .write offered (.ok n) => offered.take n
  | _ => []

def flushed? : Event → Option (Except String Unit)
  | .flush answer => some answer
  | _ => none

def failure? : Event → Option WriteFailure
  | .write _ (.error reason) => some (.refused reason)
  | .write _ (.ok 0) => some .nothingTaken
  | .write _ (.ok (_ + 1)) => none
  | .flush (.error reason) => some (.unflushed reason)
  | .flush (.ok ()) => none

theorem received_stopped {event : Event} {why : WriteFailure} (stopped : event.failure? = some why) :
    event.received = [] := by
  cases event with
  | flush => rfl
  | write offered answer =>
    cases answer with
    | error => rfl
    | ok n =>
      cases n with
      | zero => rfl
      | succ => cases stopped

end Event

def received (journal : List Event) : List UInt8 := journal.flatMap Event.received
def flushes (journal : List Event) : List (Except String Unit) := journal.filterMap Event.flushed?

theorem received_append (first second : List Event) :
    received (first ++ second) = received first ++ received second := by
  simp [received]

theorem flushes_append (first second : List Event) :
    flushes (first ++ second) = flushes first ++ flushes second := by
  simp [flushes]

theorem received_flush (journal : List Event) (answer : Except String Unit) :
    received (journal ++ [.flush answer]) = received journal := by
  rw [received_append]
  exact List.append_nil _

theorem received_grows {moment journal : List Event} (earlier : moment <+: journal) :
    received moment <+: received journal := by
  obtain ⟨rest,rfl⟩ := earlier
  exact ⟨received rest,(received_append moment rest).symm⟩

theorem noted_journal (past journal : List Event) :
    journal.foldl (fun past event => past ++ [event]) past = past ++ journal := by
  induction journal generalizing past with
  | nil => exact (List.append_nil past).symm
  | cons event rest ih => rw [List.foldl_cons,ih,List.append_assoc,List.singleton_append]

-- The events in which a text is written up to its end or to a failure. What is
-- offered is always a part of the text, from where the part taken ended.
inductive Written : List UInt8 → List Event → Option WriteFailure → Prop where
  | done : Written [] [] none
  | stopped {whole offered : List UInt8} {answer : Except String Nat} {why : WriteFailure}
      (part : offered <+: whole) (offers : offered ≠ [])
      (shown : (Event.write offered answer).failure? = some why) :
      Written whole [.write offered answer] (some why)
  | took {whole offered : List UInt8} {n : Nat} {later : List Event} {failure : Option WriteFailure}
      (part : offered <+: whole) (fits : n + 1 ≤ offered.length) (rest : Written (whole.drop (n + 1)) later failure) :
      Written whole (.write offered (.ok (n + 1)) :: later) failure

namespace Written
variable {whole more : List UInt8} {journal later : List Event} {failure : Option WriteFailure}

theorem missing (written : Written whole journal failure) :
    ∃ rest, whole = received journal ++ rest ∧ (failure = none ↔ rest = []) := by
  induction written with
  | done => exact ⟨[],rfl,by simp⟩
  | @stopped whole offered answer why part offers shown =>
    refine ⟨whole,?_,by simp,?_⟩
    · simp [received,Event.received_stopped shown]
    · rintro rfl
      exact absurd (List.prefix_nil.mp part) offers
  | @took whole offered n later failure part fits _ ih =>
    obtain ⟨rest,split,complete⟩ := ih
    refine ⟨rest,?_,complete⟩
    have taken : offered.take (n + 1) = whole.take (n + 1) := by
      obtain ⟨behind,rfl⟩ := part
      rw [List.take_append_of_le_length fits]
    change whole = offered.take (n + 1) ++ received later ++ rest
    rw [taken,List.append_assoc,← split,List.take_append_drop]

theorem complete (written : Written whole journal failure) : failure = none ↔ received journal = whole := by
  obtain ⟨rest,split,complete⟩ := written.missing
  rw [complete,split]
  simp

theorem unflushed (written : Written whole journal failure) : flushes journal = [] := by
  induction written with
  | done => rfl
  | stopped => rfl
  | took _ _ _ ih => exact ih

theorem last {why : WriteFailure} (written : Written whole journal (some why)) :
    journal.getLast?.bind Event.failure? = some why := by
  generalize ended : some why = failure at written
  induction written with
  | done => cases ended
  | stopped _ _ shown => exact shown
  | @took _ _ _ later _ _ _ _ ih =>
    have final := ih ended
    cases later with
    | nil => cases ended; cases final
    | cons event rest => exact final

theorem followed {outcome : Option WriteFailure} (written : Written whole journal outcome)
    (next : outcome = none → Written more later failure)
    (ended : ∀ why, outcome = some why → later = [] ∧ failure = some why) :
    Written (whole ++ more) (journal ++ later) failure := by
  induction written with
  | done => exact next rfl
  | stopped part offers shown =>
    obtain ⟨rfl,rfl⟩ := ended _ rfl
    exact .stopped (part.trans (List.prefix_append _ _)) offers shown
  | took part fits _ ih =>
    refine .took (part.trans (List.prefix_append _ _)) fits ?_
    rw [List.drop_append_of_le_length (Nat.le_trans fits part.length_le)]
    exact ih next ended

end Written

inductive Delivered (whole : List UInt8) : List Event → Option WriteFailure → Prop where
  | cut {journal : List Event} {why : WriteFailure} (written : Written whole journal (some why)) :
      Delivered whole journal (some why)
  | flushed {journal : List Event} (written : Written whole journal none) (answer : Except String Unit) :
      Delivered whole (journal ++ [.flush answer]) (Event.flush answer).failure?

namespace Delivered
variable {whole : List UInt8} {journal : List Event} {failure : Option WriteFailure}

theorem arrived_prefix (delivered : Delivered whole journal failure) : received journal <+: whole := by
  cases delivered with
  | cut written =>
    obtain ⟨rest,split,_⟩ := written.missing
    exact ⟨rest,split.symm⟩
  | flushed written answer =>
    obtain ⟨rest,split,_⟩ := written.missing
    exact ⟨rest,by rw [received_flush,split]⟩

theorem ending (delivered : Delivered whole journal failure) :
    (received journal ≠ whole ∧ flushes journal = [] ∧ ∃ why, failure = some why) ∨
    (received journal = whole ∧ ∃ answer, flushes journal = [answer] ∧ failure = (Event.flush answer).failure?) := by
  cases delivered with
  | @cut _ why written =>
    refine .inl ⟨?_,written.unflushed,why,rfl⟩
    exact fun arrived => nomatch written.complete.mpr arrived
  | flushed written answer =>
    refine .inr ⟨?_,answer,?_,rfl⟩
    · rw [received_flush,written.complete.mp rfl]
    · rw [flushes_append,written.unflushed]
      rfl

theorem arrived_exact (delivered : Delivered whole journal failure) :
    failure = none ↔ received journal = whole ∧ flushes journal = [.ok ()] := by
  rcases delivered.ending with ⟨short,unflushed,why,rfl⟩ | ⟨arrived,answer,flushed,rfl⟩
  · simp [short]
  · rw [flushed]
    cases answer <;> simp [arrived,Event.failure?]

theorem last {why : WriteFailure} (delivered : Delivered whole journal (some why)) :
    journal.getLast?.bind Event.failure? = some why := by
  generalize ended : some why = failure at delivered
  cases delivered with
  | cut written => exact written.last
  | flushed written answer => simp

end Delivered

def Stretch.behind {σ : Type} (front : List UInt8) (stretch : Stretch σ) : Stretch σ :=
  {stretch with taken := front ++ stretch.taken}

def Stretch.recorded {σ τ : Type} (stretch : Stretch σ) (noted : τ) : Stretch (σ × τ) :=
  ⟨(stretch.sink,noted),stretch.taken,stretch.failure⟩

namespace Sink
variable {σ τ : Type}

-- The same sink with an onlooker who notes all that passes. The answers are those
-- of the sink itself, so whoever writes cannot tell the two apart.
def watched (k : Sink σ) (note : τ → Event → τ) : Sink (σ × τ) where
  write s offered :=
    (((k.write s.1 offered).1,note s.2 (.write offered (k.write s.1 offered).2)),(k.write s.1 offered).2)
  flush s := (((k.flush s.1).1,note s.2 (.flush (k.flush s.1).2)),(k.flush s.1).2)
  write_le s offered after n took := by
    have answer : (k.write s.1 offered).2 = .ok n := congrArg Prod.snd took
    exact k.write_le s.1 offered (k.write s.1 offered).1 n (Prod.ext rfl answer)

def journaled (k : Sink σ) : Sink (σ × List Event) := k.watched fun past event => past ++ [event]

theorem watched_write {k : Sink σ} {s after : σ} {offered : List UInt8} {answer : Except String Nat}
    (given : k.write s offered = (after,answer)) (note : τ → Event → τ) (noted : τ) :
    (k.watched note).write (s,noted) offered = ((after,note noted (.write offered answer)),answer) := by
  simp [watched,given]

theorem watched_flush {k : Sink σ} {s after : σ} {answer : Except String Unit}
    (given : k.flush s = (after,answer)) (note : τ → Event → τ) (noted : τ) :
    (k.watched note).flush (s,noted) = ((after,note noted (.flush answer)),answer) := by
  simp [watched,given]

theorem writeAll_empty (k : Sink σ) (s : σ) : k.writeAll s [] = ⟨s,[],none⟩ := by
  rw [writeAll,if_pos rfl]

theorem writeAll_stopped {k : Sink σ} {s after : σ} {buffer : List UInt8} {answer : Except String Nat}
    {why : WriteFailure} (offers : buffer ≠ []) (given : k.write s buffer = (after,answer))
    (shown : (Event.write buffer answer).failure? = some why) : k.writeAll s buffer = ⟨after,[],some why⟩ := by
  rw [writeAll,if_neg offers,given]
  cases answer with
  | error reason => exact congrArg _ shown
  | ok n =>
    cases n with
    | zero => exact congrArg _ shown
    | succ => cases shown

theorem writeAll_took {k : Sink σ} {s after : σ} {buffer : List UInt8} {n : Nat} (offers : buffer ≠ [])
    (took : k.write s buffer = (after,.ok (n + 1))) :
    k.writeAll s buffer = (k.writeAll after (buffer.drop (n + 1))).behind (buffer.take (n + 1)) := by
  rw [writeAll,if_neg offers,took]
  rfl

theorem writeEach_failed {k : Sink σ} {s : σ} {buffer : List UInt8} {why : WriteFailure}
    (failed : (k.writeAll s buffer).failure = some why) (rest : List (List UInt8)) :
    k.writeEach s (buffer :: rest) = k.writeAll s buffer := by
  rw [writeEach]
  simp only [failed]

theorem writeEach_went {k : Sink σ} {s : σ} {buffer : List UInt8}
    (went : (k.writeAll s buffer).failure = none) (rest : List (List UInt8)) :
    k.writeEach s (buffer :: rest) =
      (k.writeEach (k.writeAll s buffer).sink rest).behind (k.writeAll s buffer).taken := by
  rw [writeEach]
  simp only [went]
  rfl

theorem deliver_failed {k : Sink σ} {s : σ} {buffers : List (List UInt8)} {why : WriteFailure}
    (failed : (k.writeEach s buffers).failure = some why) : k.deliver s buffers = k.writeEach s buffers := by
  unfold deliver
  simp only [failed]

theorem deliver_went {k : Sink σ} {s after : σ} {buffers : List (List UInt8)} {answer : Except String Unit}
    (went : (k.writeEach s buffers).failure = none)
    (given : k.flush (k.writeEach s buffers).sink = (after,answer)) :
    k.deliver s buffers = ⟨after,(k.writeEach s buffers).taken,(Event.flush answer).failure?⟩ := by
  unfold deliver
  cases answer <;> simp only [went,given] <;> rfl

section
variable (k : Sink σ) (note : τ → Event → τ) (s : σ) (noted : τ)

theorem writeAll_watched (buffer : List UInt8) :
    ∃ journal, (k.watched note).writeAll (s,noted) buffer = (k.writeAll s buffer).recorded (journal.foldl note noted) ∧
      received journal = (k.writeAll s buffer).taken ∧ Written buffer journal (k.writeAll s buffer).failure := by
  fun_induction writeAll k s buffer generalizing noted with
  | case1 s =>
    refine ⟨[],?_,rfl,.done⟩
    rw [writeAll_empty]
    rfl
  | case2 s buffer offers after reason refused =>
    refine ⟨[.write buffer (.error reason)],?_,rfl,.stopped (List.prefix_refl _) offers rfl⟩
    exact writeAll_stopped offers (watched_write refused note noted) rfl
  | case3 s buffer offers after nothing =>
    refine ⟨[.write buffer (.ok 0)],?_,rfl,.stopped (List.prefix_refl _) offers rfl⟩
    exact writeAll_stopped offers (watched_write nothing note noted) rfl
  | case4 s buffer offers after n took rest ih =>
    obtain ⟨journal,same,taken,written⟩ := ih (note noted (.write buffer (.ok (n + 1))))
    refine ⟨.write buffer (.ok (n + 1)) :: journal,?_,?_,?_⟩
    · rw [writeAll_took offers (watched_write took note noted),same]
      rfl
    · exact congrArg (buffer.take (n + 1) ++ ·) taken
    · exact .took (List.prefix_refl _) (k.write_le s buffer after (n + 1) took) written

theorem writeEach_watched (buffers : List (List UInt8)) :
    ∃ journal,
      (k.watched note).writeEach (s,noted) buffers = (k.writeEach s buffers).recorded (journal.foldl note noted) ∧
      received journal = (k.writeEach s buffers).taken ∧
      Written buffers.flatten journal (k.writeEach s buffers).failure := by
  induction buffers generalizing s noted with
  | nil => exact ⟨[],rfl,rfl,.done⟩
  | cons buffer rest ih =>
    obtain ⟨first,same,taken,written⟩ := k.writeAll_watched note s noted buffer
    have outcome : ((k.watched note).writeAll (s,noted) buffer).failure = (k.writeAll s buffer).failure :=
      congrArg Stretch.failure same
    cases ended : (k.writeAll s buffer).failure with
    | some why =>
      rw [writeEach_failed ended,writeEach_failed (outcome.trans ended)]
      refine ⟨first,same,taken,?_⟩
      rw [ended] at written ⊢
      have cut : Written (buffer ++ rest.flatten) (first ++ []) (some why) :=
        written.followed (fun went => nomatch went) fun _ same => ⟨rfl,same⟩
      simpa using cut
    | none =>
      obtain ⟨second,sameLater,takenLater,writtenLater⟩ := ih (k.writeAll s buffer).sink (first.foldl note noted)
      rw [writeEach_went ended,writeEach_went (outcome.trans ended),same]
      refine ⟨first ++ second,?_,?_,?_⟩
      · change ((k.watched note).writeEach ((k.writeAll s buffer).sink,first.foldl note noted) rest).behind _ = _
        rw [sameLater,List.foldl_append]
        rfl
      · rw [received_append,taken,takenLater]
        rfl
      · rw [ended] at written
        exact written.followed (fun _ => writtenLater) fun _ failed => nomatch failed

theorem deliver_watched (buffers : List (List UInt8)) :
    ∃ journal, (k.watched note).deliver (s,noted) buffers = (k.deliver s buffers).recorded (journal.foldl note noted) ∧
      received journal = (k.deliver s buffers).taken ∧
      Delivered buffers.flatten journal (k.deliver s buffers).failure := by
  obtain ⟨journal,same,taken,written⟩ := k.writeEach_watched note s noted buffers
  have sink : ((k.watched note).writeEach (s,noted) buffers).sink =
      ((k.writeEach s buffers).sink,journal.foldl note noted) :=
    congrArg Stretch.sink same
  have outcome : ((k.watched note).writeEach (s,noted) buffers).failure = (k.writeEach s buffers).failure :=
    congrArg Stretch.failure same
  cases ended : (k.writeEach s buffers).failure with
  | some why =>
    rw [deliver_failed ended,deliver_failed (outcome.trans ended)]
    rw [ended] at written ⊢
    exact ⟨journal,same,taken,.cut written⟩
  | none =>
    rw [ended] at written
    obtain ⟨⟨after,answer⟩,given⟩ : ∃ reply, k.flush (k.writeEach s buffers).sink = reply := ⟨_,rfl⟩
    have seen := watched_flush given note (journal.foldl note noted)
    rw [← sink] at seen
    rw [deliver_went ended given,deliver_went (outcome.trans ended) seen,same]
    refine ⟨journal ++ [.flush answer],?_,by rw [received_flush,taken],.flushed written answer⟩
    rw [List.foldl_append]
    rfl

end

theorem deliver_journaled (k : Sink σ) (s : σ) (past : List Event) (buffers : List (List UInt8)) :
    ∃ journal, k.journaled.deliver (s,past) buffers = (k.deliver s buffers).recorded (past ++ journal) ∧
      received journal = (k.deliver s buffers).taken ∧
      Delivered buffers.flatten journal (k.deliver s buffers).failure := by
  obtain ⟨journal,same,told⟩ := k.deliver_watched (fun past event => past ++ [event]) s past buffers
  rw [noted_journal] at same
  exact ⟨journal,same,told⟩

end Sink

end SharedVerifiers
