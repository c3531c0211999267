import SharedVerifiers.Proofs.Verifiers
namespace SharedVerifiers

def Instance.rowText (row : List Instance) : List UInt8 := row.flatMap fun i => Text.bytes i.text

-- Nothing in the report knows of the sink.
def Tables.rowReport (t : Tables) (entryPoint : EntryPoint) (row : List Instance) (counts : Counts) : Report := {
  label := t.label
  entryPoint := entryPoint
  instances := counts
  bytes := (Instance.rowText row).length
  outputHash := Report.hashOf (Instance.rowText row)}

def Report.unless (report : Report) : Option WriteFailure → Except WriteFailure Report
  | some why => .error why
  | none => .ok report

-- What the journal of a sink tells of the emission into it. A report is given
-- for a whole text and one good flush; else the last answer says what went
-- wrong, and the flush was not asked for unless the text was whole.
structure Emission.Accounted {σ : Type} (e : Emission σ) (journal : List Event) (text : List UInt8)
    (report : Report) : Prop where
  taken : e.taken = received journal
  growing : ∀ moment, moment <+: journal → received moment <+: text
  complete : (∃ given, e.outcome = .ok given) ↔ received journal = text ∧ flushes journal = [.ok ()]
  reported : ∀ given, e.outcome = .ok given → given = report
  failed : ∀ why, e.outcome = .error why → journal.getLast?.bind Event.failure? = some why ∧
    ((received journal ≠ text ∧ flushes journal = []) ∨
      (received journal = text ∧ ∃ reason, flushes journal = [.error reason]))

theorem Delivered.accounted {σ : Type} {text : List UInt8} {journal : List Event} {failure : Option WriteFailure}
    (delivered : Delivered text journal failure) (sink : σ) (report : Report) :
    (⟨sink,received journal,report.unless failure⟩ : Emission σ).Accounted journal text report := by
  refine ⟨rfl,fun moment earlier => (received_grows earlier).trans delivered.arrived_prefix,?_,?_,?_⟩
  · rw [← delivered.arrived_exact]
    cases failure <;> simp [Report.unless]
  · intro given arrived
    cases failure with
    | none => exact (Except.ok.inj arrived).symm
    | some why => cases arrived
  · intro why refused
    cases failure with
    | none => cases refused
    | some shown =>
      cases Except.error.inj refused
      refine ⟨delivered.last,?_⟩
      rcases delivered.ending with ⟨short,unflushed,_⟩ | ⟨arrived,answer,flushed,ended⟩
      · exact .inl ⟨short,unflushed⟩
      · cases answer with
        | ok done => cases ended
        | error reason => exact .inr ⟨arrived,reason,flushed⟩

namespace Tables
variable {σ : Type}

section Row
variable (t : Tables) (entryPoint : EntryPoint) (row : List Instance) (counts : Counts) (k : Sink σ) (s : σ)

theorem emit_exact : t.emit entryPoint row counts k s =
    let stretch := k.deliver s (row.map fun i => Text.bytes i.text)
    ⟨stretch.sink,stretch.taken,(t.rowReport entryPoint row counts).unless stretch.failure⟩ := by
  rw [emit_taken]
  dsimp only
  cases ended : (k.deliver s (row.map fun i => Text.bytes i.text)).failure with
  | some why => rfl
  | none =>
    have whole := k.deliver_whole s _ ended
    rw [← List.flatMap_def] at whole
    simp only [whole,rowReport,Instance.rowText,Report.unless]

theorem emit_accounted : ∃ journal,
    t.emit entryPoint row counts k.journaled (s,[]) =
      ⟨((t.emit entryPoint row counts k s).sink,journal),(t.emit entryPoint row counts k s).taken,
        (t.emit entryPoint row counts k s).outcome⟩ ∧
    (t.emit entryPoint row counts k s).Accounted journal (Instance.rowText row) (t.rowReport entryPoint row counts) := by
  obtain ⟨journal,same,taken,delivered⟩ := k.deliver_journaled s [] (row.map fun i => Text.bytes i.text)
  rw [← List.flatMap_def] at delivered
  refine ⟨journal,?_,?_⟩
  · rw [emit_exact,emit_exact,same]
    rfl
  · rw [emit_exact]
    dsimp only
    rw [← taken]
    exact delivered.accounted _ _

theorem emit_limited {k : Sink σ} {room : σ → Nat} (limited : k.Limited room) :
    (t.emit entryPoint row counts k s).taken = (Instance.rowText row).take (room s) ∧
      ((∃ given, (t.emit entryPoint row counts k s).outcome = .ok given) ↔ (Instance.rowText row).length ≤ room s) := by
  obtain ⟨taken,arrived⟩ := limited.deliver s (row.map fun i => Text.bytes i.text)
  rw [← List.flatMap_def] at taken arrived
  rw [emit_exact]
  refine ⟨taken,?_⟩
  rw [Instance.rowText,← arrived]
  dsimp only
  cases (k.deliver s (row.map fun i => Text.bytes i.text)).failure <;> simp [Report.unless]

end Row

end Tables

inductive Request where
  | verifiers
  | matchers (leaves : List Leaf)

def Request.entryPoint : Request → EntryPoint
  | .verifiers => .op
  | .matchers _ => .pattern

def Request.kinds : Request → List Kind
  | .verifiers => Kind.all
  | .matchers _ => matcherKinds

namespace Tables
variable {σ : Type}

def respond (t : Tables) (k : Sink σ) (s : σ) : Request → Emission σ
  | .verifiers => t.emitVerifiers k s
  | .matchers leaves => (t.emitMatchers leaves k s).2

def journal (t : Tables) (k : Sink σ) (s : σ) (request : Request) : List Event :=
  (t.respond k.journaled (s,[]) request).sink.2

def prepared (t : Tables) : Request → Tables
  | .verifiers => t
  | .matchers leaves => t.collectLeaves leaves

def wanted (t : Tables) : Request → List Instance
  | .verifiers => t.verifiers
  | .matchers leaves => (t.collectLeaves leaves).matchers

def text (t : Tables) (request : Request) : List UInt8 := Instance.rowText (t.wanted request)

def report (t : Tables) (request : Request) : Report :=
  (t.prepared request).rowReport request.entryPoint (t.wanted request) ((t.prepared request).counts request.kinds)

theorem respond_emit (t : Tables) (k : Sink σ) (s : σ) (request : Request) :
    t.respond k s request = (t.prepared request).emit request.entryPoint (t.wanted request)
      ((t.prepared request).counts request.kinds) k s := by
  cases request <;> rfl

-- Whatever the sink does, it has at every moment the beginning of one text, the
-- text that a sink without faults gets, and the answer says whether it has all.
theorem respond_exact (t : Tables) (request : Request) (k : Sink σ) (s : σ) :
    (∀ {τ : Type} {full : Sink τ} (_ : full.Accepting) (start : τ),
      (t.respond full start request).taken = t.text request ∧
      (t.respond full start request).outcome = .ok (t.report request)) ∧
    (t.report request).bytes = (t.text request).length ∧
    (t.report request).outputHash = "blake3:" ++ Digest.hexDigest (t.text request) ∧
    t.respond k.journaled (s,[]) request =
      ⟨((t.respond k s request).sink,t.journal k s request),(t.respond k s request).taken,
        (t.respond k s request).outcome⟩ ∧
    (t.respond k s request).Accounted (t.journal k s request) (t.text request) (t.report request) ∧
    ∀ room : σ → Nat, k.Limited room →
      (t.respond k s request).taken = (t.text request).take (room s) ∧
      ((∃ given, (t.respond k s request).outcome = .ok given) ↔ (t.text request).length ≤ room s) := by
  have accounted := (t.prepared request).emit_accounted request.entryPoint (t.wanted request)
    ((t.prepared request).counts request.kinds) k s
  obtain ⟨journal,same,accounted⟩ := accounted
  rw [← respond_emit,← respond_emit] at same
  rw [← respond_emit] at accounted
  have noted : t.journal k s request = journal := by
    rw [Tables.journal,same]
  refine ⟨?_,rfl,rfl,?_,?_,?_⟩
  · intro τ full accepting start
    rw [respond_emit]
    exact emit_accepted _ _ _ _ accepting start
  · rw [noted]
    exact same
  · rw [noted]
    exact accounted
  · intro room limited
    rw [respond_emit]
    exact emit_limited _ _ _ _ s limited

end Tables

-- It takes three bytes at a time, has room for ten, and then takes none.
def tightSink : Capacity := {chunk := some 3,limit := some 10,silent := true}

theorem respond_exact_tight :
    ({} : Capacity).sink.Accepting ∧ tightSink.sink.Limited (10 - ·) ∧
    (twoNumbers.verifierTables.respond ({} : Capacity).sink 0 .verifiers).taken =
      twoNumbers.verifierTables.text .verifiers ∧
    (twoNumbers.verifierTables.respond tightSink.sink 0 .verifiers).taken =
      (twoNumbers.verifierTables.text .verifiers).take 10 ∧
    ∃ why, (twoNumbers.verifierTables.respond tightSink.sink 0 .verifiers).outcome = .error why ∧
      (twoNumbers.verifierTables.journal tightSink.sink 0 .verifiers).getLast?.bind Event.failure? = some why := by
  have accepting : ({} : Capacity).sink.Accepting := Capacity.unlimited_accepting _ (by decide) rfl rfl
  have limited : tightSink.sink.Limited (10 - ·) := tightSink.limited (by decide) rfl rfl
  obtain ⟨whole,_,_,_,accounted,cut⟩ := twoNumbers.verifierTables.respond_exact .verifiers tightSink.sink 0
  obtain ⟨taken,fits⟩ := cut _ limited
  have long : 10 < (twoNumbers.verifierTables.text .verifiers).length := by
    have row : twoNumbers.verifierRow = [⟨.verifier .type,twoNumbers.verifierSlots .type numberType 1⟩] := by decide
    have front : (Text.bytes "\nstatic ::llvm::LogicalResult ").length = 30 := by decide
    rw [Tables.text,Tables.wanted,Description.verifierTables_verifiers,row]
    simp only [Instance.rowText,List.flatMap_cons,Instance.text,Template.render,Text.bytes_join,Template.parts,
      Template.typeParts,List.map_cons,Template.Part.render,List.length_append,front]
    omega
  refine ⟨accepting,limited,(whole accepting 0).1,taken,?_⟩
  cases outcome : (twoNumbers.verifierTables.respond tightSink.sink 0 .verifiers).outcome with
  | ok given => exact absurd (fits.mp ⟨given,outcome⟩) (Nat.not_le.mpr long)
  | error why => exact ⟨why,rfl,(accounted.failed why outcome).1⟩

end SharedVerifiers
