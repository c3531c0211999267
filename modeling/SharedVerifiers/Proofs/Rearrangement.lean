import Mathlib.Algebra.BigOperators.Group.List.Basic
import Mathlib.Algebra.GroupWithZero.Nat
import SharedVerifiers.Proofs.Renaming
namespace SharedVerifiers

namespace Template

theorem part_length (part : Part) (slots : Slots) : (Text.bytes (part.render slots)).length =
    (if part = .slot .name then (Text.bytes slots.name).length else 0) +
      (Text.bytes (part.render {slots with name := ""})).length := by
  cases part with
  | text words => simp [Part.render]
  | ifGeneric words => simp [Part.render]
  | slot s =>
    cases s with
    | name => simp [Part.render,Slots.get,Text.bytes]
    | _ => simp [Part.render,Slots.get]

def nameUses (t : Template) : Nat := t.parts.count (.slot .name)

theorem render_length (t : Template) (slots : Slots) : (Text.bytes (t.render slots)).length =
    t.nameUses * (Text.bytes slots.name).length + (Text.bytes (t.render {slots with name := ""})).length := by
  unfold render nameUses
  rw [Text.bytes_join,Text.bytes_join]
  generalize t.parts = parts
  induction parts with
  | nil => simp
  | cons part rest ih =>
    simp only [List.map_cons,List.flatMap_cons,List.length_append,ih,List.count_cons]
    rw [part_length part slots]
    by_cases named : part = .slot .name
    · simp only [named,beq_self_eq_true,if_true,Nat.add_mul,Nat.one_mul]
      omega
    · simp only [beq_eq_false_iff_ne.mpr named,named,if_false,Bool.false_eq_true,Nat.zero_add,Nat.add_zero]
      omega

end Template

namespace Instance

def heading (i : Instance) : Template × String := (i.template,i.slots.name)

def nameLength (heading : Template × String) : Nat := heading.1.nameUses * (Text.bytes heading.2).length

theorem rowText_length (row : List Instance) : (rowText row).length =
    ((row.map heading).map nameLength).sum + ((row.map nameless).map fun i => (Text.bytes i.text).length).sum := by
  rw [rowText,List.length_flatMap,List.map_map,List.map_map,← List.sum_map_add]
  congr 1
  refine List.map_congr_left ?_
  intro i _
  exact i.template.render_length i.slots

theorem rowText_rearranged {left right : List Instance} (headings : left.map heading = right.map heading)
    (bodies : (left.map nameless).Perm (right.map nameless)) : (rowText left).length = (rowText right).length := by
  rw [rowText_length,rowText_length,headings,(bodies.map _).sum_nat]

end Instance

namespace Constraint

def canonical (c : Constraint) : Constraint := {c with interfaceType := c.interface}

theorem canonical_interface (c : Constraint) : c.canonical.interface = c.interface := by
  simp [canonical,interface,Option.filter_filter]

theorem canonical_identity (c : Constraint) : c.canonical.identity = c.identity := by
  simp only [identity,canonical_interface]
  rfl

theorem canonical_same {c d : Constraint} (same : SameIdentity c d) (summary : c.summary = d.summary) :
    c.canonical = d.canonical := by
  simp only [canonical,same.condition,same.interface,summary]

theorem newcomers_known {known : List Identity} {row : List Constraint} {asked : Identity} (fresh : asked ∉ known) :
    asked ∈ identities (newcomers known row) ↔ asked ∈ identities row := by
  have covered := newcomers_cover known row asked
  rw [List.mem_append] at covered
  constructor
  · intro added
    exact (covered.mp (.inr added)).resolve_left fresh
  · intro met
    exact (covered.mpr (.inr met)).resolve_left fresh

theorem newcomers_count {left right : List Constraint}
    (same : ∀ asked, asked ∈ identities left ↔ asked ∈ identities right) :
    (newcomers [] left).length = (newcomers [] right).length := by
  have rearranged : (identities (newcomers [] left)).Perm (identities (newcomers [] right)) := by
    refine (List.perm_ext_iff_of_nodup (newcomers_distinct _ _) (newcomers_distinct _ _)).mpr ?_
    intro asked
    rw [newcomers_known List.not_mem_nil,newcomers_known List.not_mem_nil,same asked]
  simpa only [identities,List.length_map] using rearranged.length_eq

-- Which constraint of an identity comes first makes no difference if all that
-- have it are described in the same words.
theorem newcomers_canonical {left right : List Constraint}
    (same : ∀ asked, asked ∈ identities left → asked ∈ identities right)
    (worded : ∀ c ∈ left, ∀ d ∈ right, SameIdentity c d → c.summary = d.summary) {shown : Constraint}
    (listed : shown ∈ (newcomers [] left).map canonical) : shown ∈ (newcomers [] right).map canonical := by
  obtain ⟨c,first,rfl⟩ := List.mem_map.mp listed
  have inLeft := (newcomers_sublist [] left).subset first
  have met := same _ (List.mem_map_of_mem inLeft)
  obtain ⟨d,kept,identity⟩ := List.mem_map.mp ((newcomers_known List.not_mem_nil).mpr met)
  have inRight := (newcomers_sublist [] right).subset kept
  have alike : SameIdentity c d := identity.symm
  exact List.mem_map.mpr ⟨d,kept,(canonical_same alike (worded c inLeft d inRight alike)).symm⟩

theorem newcomers_rearranged {left right : List Constraint}
    (same : ∀ asked, asked ∈ identities left ↔ asked ∈ identities right)
    (worded : ∀ c ∈ left, ∀ d ∈ right, SameIdentity c d → c.summary = d.summary) :
    ((newcomers [] left).map canonical).Perm ((newcomers [] right).map canonical) := by
  have distinct : ∀ row, ((newcomers [] row).map canonical).Nodup := by
    intro row
    refine List.Nodup.of_map identity ?_
    rw [List.map_map]
    simp only [Function.comp_def,canonical_identity]
    exact newcomers_distinct [] row
  refine (List.perm_ext_iff_of_nodup (distinct left) (distinct right)).mpr ?_
  intro shown
  constructor
  · exact newcomers_canonical (fun asked => (same asked).mp) worded
  · refine newcomers_canonical (fun asked => (same asked).mpr) ?_
    intro d inRight c inLeft alike
    exact (worded c inLeft d inRight alike.symm).symm

end Constraint

theorem Entry.verifier_canonical (c : Constraint) (name : String) (k : Kind) :
    (⟨c.canonical,name⟩ : Entry).verifier k = (⟨c,name⟩ : Entry).verifier k := by
  simp only [Entry.verifier,Entry.verifierIn,Constraint.canonical_interface]
  rfl

def SameOffers (first second : List (Kind × Constraint)) : Prop :=
  ∀ k asked, (∃ c, (k,c) ∈ first ∧ c.identity = asked) ↔ ∃ c, (k,c) ∈ second ∧ c.identity = asked

def SameWords (first second : List (Kind × Constraint)) : Prop :=
  ∀ k c d, (k,c) ∈ first → (k,d) ∈ second → Constraint.SameIdentity c d → c.summary = d.summary

section
variable {first second : List (Kind × Constraint)} (source : String) (options : Options)
  (offers : List (Kind × Constraint))

-- Names go by place, so the number of verifiers is all that they show.
theorem gathered_headings : (gathered source options offers).verifiers.map Instance.heading =
    Kind.all.flatMap fun k => (List.range' 1 (Constraint.newcomers [] (k.select offers)).length).map fun ordinal =>
      (.verifier k,(UnitNames.ofSource source options).mint k ordinal) := by
  rw [Tables.verifiers_each,List.map_flatMap]
  congr 1
  funext k
  have named := congrArg (List.map fun name => (Template.verifier k,name)) (gathered_names source options offers k)
  rw [List.map_map,List.map_map] at named
  rw [← gathered_size source options,List.map_map]
  exact named

theorem gathered_bodies : (gathered source options offers).verifiers.map Instance.nameless =
    Kind.all.flatMap fun k => ((Constraint.newcomers [] (k.select offers)).map Constraint.canonical).map fun c =>
      (⟨c,""⟩ : Entry).verifier k := by
  have row := wanted_nameless source options offers .verifiers
  simp only [Request.offers,List.append_nil] at row
  refine row.trans ?_
  simp only [List.map_map,Function.comp_def,Entry.verifier_canonical]
  rfl

theorem SameOffers.selected (same : SameOffers first second) (k : Kind) (asked : Identity) :
    asked ∈ Constraint.identities (k.select first) ↔ asked ∈ Constraint.identities (k.select second) := by
  rw [k.select_identities,k.select_identities]
  exact same k asked

theorem SameOffers.counts (same : SameOffers first second) :
    (gathered source options first).counts Kind.all = (gathered source options second).counts Kind.all := by
  unfold Tables.counts
  simp only [gathered_size,Constraint.newcomers_count (same.selected _)]

theorem SameOffers.found (same : SameOffers first second) (k : Kind) (c : Constraint) :
    (∃ name, (gathered source options first).lookup k c = .found name) ↔
      ∃ name, (gathered source options second).lookup k c = .found name := by
  rw [Tables.lookup_known,Tables.lookup_known,gathered_known,gathered_known]
  exact same k c.identity

theorem SameOffers.headings (same : SameOffers first second) :
    (gathered source options first).verifiers.map Instance.heading =
      (gathered source options second).verifiers.map Instance.heading := by
  rw [gathered_headings,gathered_headings]
  simp only [Constraint.newcomers_count (same.selected _)]

theorem SameOffers.bodies (same : SameOffers first second) (worded : SameWords first second) :
    ((gathered source options first).verifiers.map Instance.nameless).Perm
      ((gathered source options second).verifiers.map Instance.nameless) := by
  rw [gathered_bodies,gathered_bodies]
  refine List.Perm.flatMap_left Kind.all ?_
  intro k _
  refine (Constraint.newcomers_rearranged (same.selected k) ?_).map _
  intro c inFirst d inSecond
  exact worded k c d ((k.mem_select _ _).mp inFirst) ((k.mem_select _ _).mp inSecond)

end

theorem Tables.emitVerifiers_reported (t : Tables) {σ : Type} {sink : Sink σ} (accepting : sink.Accepting) (s : σ) :
    ∃ report, (t.emitVerifiers sink s).outcome = .ok report ∧ report.instances = t.counts Kind.all ∧
      report.bytes = (Instance.rowText t.verifiers).length := by
  obtain ⟨_,outcome⟩ := t.emit_accepted .op t.verifiers (t.counts Kind.all) accepting s
  exact ⟨_,outcome,rfl,rfl⟩

def Operation.Brings (ops : List Operation) (k : Kind) (c : Constraint) : Prop :=
  (∃ op ∈ ops, op.Carries k c) ∧ c.hasPredicate = true ∧ c.hoistable k = true

theorem Operation.brings_exact (ops : List Operation) (k : Kind) (c : Constraint) :
    Operation.Brings ops k c ↔ (k,c) ∈ Operation.offers ops :=
  (Operation.mem_offers ops k c).symm

-- Which operation comes first, and how often a constraint is wanted, shows in
-- the numbers of the names and in the choice of words only. If all who want a
-- constraint describe it in the same words, the unit is the same but for the
-- order of its functions.
theorem rearrangement_exact (source : String) (options : Options) {first second : List Operation}
    (same : ∀ k asked, (∃ c, Operation.Brings first k c ∧ c.identity = asked) ↔
      ∃ c, Operation.Brings second k c ∧ c.identity = asked)
    {σ τ : Type} {sink : Sink σ} {other : Sink τ} (accepting : sink.Accepting) (accepts : other.Accepting)
    (s : σ) (start : τ) :
    let left := (Tables.ofSource source options).collectOperations first
    let right := (Tables.ofSource source options).collectOperations second
    (∀ k c, (∃ name, left.lookup k c = .found name) ↔ ∃ name, right.lookup k c = .found name) ∧
    ∃ report counterpart, (left.emitVerifiers sink s).outcome = .ok report ∧
      (right.emitVerifiers other start).outcome = .ok counterpart ∧
      report.instances = counterpart.instances ∧
      left.verifiers.map Instance.heading = right.verifiers.map Instance.heading ∧
      ((∀ k c d, Operation.Brings first k c → Operation.Brings second k d → Constraint.SameIdentity c d →
          c.summary = d.summary) →
        (left.verifiers.map Instance.nameless).Perm (right.verifiers.map Instance.nameless) ∧
        report.bytes = counterpart.bytes) := by
  dsimp only
  have offers : SameOffers (Operation.offers first) (Operation.offers second) := by
    intro k asked
    simp only [← Operation.brings_exact]
    exact same k asked
  have headings := offers.headings source options
  obtain ⟨report,outcome,instances,bytes⟩ :=
    ((Tables.ofSource source options).collectOperations first).emitVerifiers_reported accepting s
  obtain ⟨counterpart,matched,numbers,size⟩ :=
    ((Tables.ofSource source options).collectOperations second).emitVerifiers_reported accepts start
  have counts : report.instances = counterpart.instances := by
    rw [instances,numbers]
    exact offers.counts source options
  refine ⟨offers.found source options,report,counterpart,outcome,matched,counts,headings,?_⟩
  intro worded
  have words : SameWords (Operation.offers first) (Operation.offers second) := by
    intro k c d inFirst inSecond
    exact worded k c d ((Operation.brings_exact first k c).mpr inFirst) ((Operation.brings_exact second k d).mpr inSecond)
  have bodies := offers.bodies source options words
  refine ⟨bodies,?_⟩
  rw [bytes,size]
  exact Instance.rowText_rearranged headings bodies

def indexType : Constraint := {condition := "$_self.isIndex()",summary := "an index"}

def numberFirst : List Operation :=
  [{name := "AddOp",operands := [⟨"lhs",some numberType⟩,⟨"rhs",some indexType⟩]}]

def indexFirst : List Operation := [
  {name := "CastOp",operands := [⟨"in",some indexType⟩],results := [⟨"out",some numberType⟩]},
  {name := "NegOp",results := [⟨"result",some numberType⟩]}]

theorem rearrangement_exact_index :
    (∀ k asked, (∃ c, Operation.Brings numberFirst k c ∧ c.identity = asked) ↔
      ∃ c, Operation.Brings indexFirst k c ∧ c.identity = asked) ∧
    (∀ k c d, Operation.Brings numberFirst k c → Operation.Brings indexFirst k d → Constraint.SameIdentity c d →
      c.summary = d.summary) ∧
    ∃ report counterpart,
      (((Tables.ofSource "Ops.td" {}).collectOperations numberFirst).emitVerifiers ({} : Capacity).sink 0).outcome =
        .ok report ∧
      (((Tables.ofSource "Ops.td" {}).collectOperations indexFirst).emitVerifiers ({} : Capacity).sink 0).outcome =
        .ok counterpart ∧ report.bytes = counterpart.bytes := by
  have accepting : ({} : Capacity).sink.Accepting := Capacity.unlimited_accepting _ (by decide) rfl rfl
  have left : Operation.offers numberFirst = [(.type,numberType),(.type,indexType)] := by decide
  have right : Operation.offers indexFirst = [(.type,indexType),(.type,numberType),(.type,numberType)] := by decide
  have brought : ∀ k c, Operation.Brings numberFirst k c ↔ k = .type ∧ (c = numberType ∨ c = indexType) := by
    intro k c
    rw [Operation.brings_exact,left]
    simp [and_or_left]
  have again : ∀ k c, Operation.Brings indexFirst k c ↔ k = .type ∧ (c = numberType ∨ c = indexType) := by
    intro k c
    rw [Operation.brings_exact,right]
    simp [and_or_left,or_comm]
  have same : ∀ k asked, (∃ c, Operation.Brings numberFirst k c ∧ c.identity = asked) ↔
      ∃ c, Operation.Brings indexFirst k c ∧ c.identity = asked := by
    intro k asked
    simp only [brought,again]
  have worded : ∀ k c d, Operation.Brings numberFirst k c → Operation.Brings indexFirst k d →
      Constraint.SameIdentity c d → c.summary = d.summary := by
    intro k c d inFirst inSecond alike
    obtain ⟨_,left⟩ := (brought k c).mp inFirst
    obtain ⟨_,right⟩ := (again k d).mp inSecond
    rcases left with rfl | rfl
    · rcases right with rfl | rfl
      · rfl
      · exact absurd alike (by decide)
    · rcases right with rfl | rfl
      · exact absurd alike (by decide)
      · rfl
  obtain ⟨_,report,counterpart,outcome,matched,_,_,bytes⟩ :=
    rearrangement_exact "Ops.td" {} same accepting accepting 0 0
  exact ⟨same,worded,report,counterpart,outcome,matched,(bytes worded).2⟩

end SharedVerifiers
