import SharedVerifiers.Document.Record
import SharedVerifiers.Proofs.Rewriting
namespace SharedVerifiers.Document
open Json (Value)

variable {α β : Type}

theorem bind_ok {outcome : Outcome α} {next : α → Outcome β} {a : α} {follows later : Nat}
    (done : outcome follows = .ok (a,later)) : (outcome >>= next) follows = next a later := by
  simp only [bind,StateT.bind,done,Except.bind]

theorem map_ok {outcome : Outcome α} (f : α → β) {a : α} {follows later : Nat}
    (done : outcome follows = .ok (a,later)) : (f <$> outcome) follows = .ok (f a,later) := by
  simp only [Functor.map,StateT.map,done,bind,Except.bind,pure,Except.pure]

theorem locate_ok (r : Reading) {outcome : Outcome α} {follows : Nat} {done : α × Nat}
    (good : outcome follows = .ok done) : r.locate outcome follows = .ok done := by
  unfold Reading.locate
  rw [good]
  split <;> rfl

theorem under_ok (step : Step) {outcome : Outcome α} {follows : Nat} {done : α × Nat}
    (good : outcome follows = .ok done) : Reading.under step outcome follows = .ok done := by
  unfold Reading.under
  rw [good]
  rfl

theorem follow_toNode (r : Reading) (v : Value) (follows : Nat) :
    r.follow v.toNode follows = .ok (v.toNode,follows) := by
  cases v <;> simp only [Value.toNode] <;> rfl

theorem follow_text (r : Reading) (words : String) (follows : Nat) :
    r.follow (.text words) follows = .ok (.text words,follows) := rfl

theorem located (r : Reading) (v : Value) {next : Node → Outcome β} {follows : Nat} {done : β × Nat}
    (good : next v.toNode follows = .ok done) : r.locate (r.follow v.toNode >>= next) follows = .ok done := by
  refine locate_ok r ?_
  rw [bind_ok (follow_toNode r v follows)]
  exact good

theorem chooseWord_found {choices : List α} {name : α → String} {a : α}
    (found : choices.find? (fun b => name b == name a) = some a) (follows : Nat) :
    chooseWord choices name (name a) follows = .ok (a,follows) := by
  unfold chooseWord
  rw [found]
  rfl

-- However a value is rewritten, what is read where no more than so many
-- containers are open is `b`.
def Rereads (read : Reader β) (depth : Nat) (b : β) (v : Value) : Prop :=
  ∀ w, Value.Rewrites v w → ∀ (r : Reading) (follows : Nat), r.depth ≤ depth →
    read r w.toNode follows = .ok (b,follows)

namespace Rereads

theorem whole {read : Reader β} {depth : Nat} {b : β} {v w : Value} (reads : Rereads read depth b v)
    (rewrites : Value.Rewrites v w) (format : Format) : w.toTree.read format read = .ok b := by
  have root := reads w rewrites ⟨format,false,0,#[]⟩ 0 (Nat.zero_le depth)
  simp only [Tree.read,Value.toTree,root]
  rfl

theorem rewritten {read : Reader β} {depth : Nat} {b : β} {v w : Value} (reads : Rereads read depth b v)
    (rewrites : Value.Rewrites v w) : Rereads read depth b w :=
  fun u further => reads u (rewrites.trans further)

theorem fixed {read : Reader β} {b : β} {v : Value} (fixed : ∀ w, ¬ Value.Rewritten v w)
    (reads : ∀ (r : Reading) (follows : Nat), read r v.toNode follows = .ok (b,follows)) (depth : Nat) :
    Rereads read depth b v := by
  intro w rewrites r follows _
  cases Value.rewrites_fixed fixed rewrites
  exact reads r follows

theorem text (depth : Nat) (words : String) : Rereads readText depth words (.text words) :=
  fixed (Value.text_fixed words) (fun r _ => located r (.text words) rfl) depth

theorem flag (depth : Nat) (b : Bool) : Rereads readFlag depth b (.bool b) :=
  fixed (Value.bool_fixed b) (fun r _ => located r (.bool b) rfl) depth

theorem natural (width : String) (depth n : Nat) : Rereads (readCount width) depth n (.natural n) :=
  fixed (Value.number_fixed (.natural n)) (fun r _ => located r (.natural n) rfl) depth

theorem choice {choices : List α} {name : α → String} {a : α}
    (found : choices.find? (fun b => name b == name a) = some a) (depth : Nat) :
    Rereads (readChoice choices name) depth a (.text (name a)) :=
  fixed (Value.text_fixed (name a)) (fun _ follows => chooseWord_found found follows) depth

theorem word {choices : List α} {name : α → String} {a : α}
    (found : choices.find? (fun b => name b == name a) = some a) (depth : Nat) :
    Rereads (readWord choices name) depth a (.text (name a)) :=
  fixed (Value.text_fixed (name a)) (fun r follows => located r (.text (name a)) (chooseWord_found found follows)) depth

theorem option {read : Reader β} {depth : Nat} {b : β} {v : Value} (given : v ≠ .null)
    (reads : Rereads read depth b v) : Rereads (readOption read) depth (some b) v := by
  intro w rewrites r follows fits
  have present : w.toNode.presence = .given := by
    cases w with
    | null => exact absurd rfl (Value.rewrites_null given rewrites)
    | _ => simp only [Value.toNode]; rfl
  unfold readOption
  rw [bind_ok (follow_toNode r w follows),present]
  exact map_ok some (reads w rewrites r follows fits)

theorem items {read : Reader β} {depth : Nat} {toJson : β → Value} {bs : List β}
    (each : ∀ b ∈ bs, Rereads read depth b (toJson b)) {row : List Value}
    (rewrites : List.Forall₂ Value.Rewrites (bs.map toJson) row) (r : Reading) (follows : Nat)
    (fits : r.depth ≤ depth) (index : Nat) :
    readItems read r index (Value.toItems row) follows = .ok (bs,follows) := by
  induction bs generalizing row index with
  | nil =>
    cases rewrites
    rfl
  | cons b bs ih =>
    cases rewrites with
    | cons first rest =>
      rw [Value.toItems,readItems,
        bind_ok (under_ok (.item index) (each b List.mem_cons_self _ first r follows fits)),
        bind_ok (ih (fun b inside => each b (List.mem_cons_of_mem _ inside)) rest (index + 1))]
      rfl

theorem list {read : Reader β} {depth : Nat} {toJson : β → Value} {bs : List β}
    (each : ∀ b ∈ bs, Rereads read (depth + 1) b (toJson b)) :
    Rereads (readList read) depth bs (.array (bs.map toJson)) := by
  intro w rewrites r follows fits
  obtain ⟨row,rfl,rewritten⟩ := Value.rewrites_array rewrites
  refine located r (.array row) ?_
  simp only [Value.toNode,Node.bare]
  rw [bind_ok (items each rewritten r.deeper follows (Nat.succ_le_succ fits) 0)]
  rfl

@[simp]
theorem text_root (format : Format) (words : String) : (Value.text words).toTree.read format readText = .ok words :=
  (text 0 words).whole .refl format

@[simp]
theorem flag_root (format : Format) (b : Bool) : (Value.bool b).toTree.read format readFlag = .ok b :=
  (flag 0 b).whole .refl format

@[simp]
theorem empty_root (format : Format) (read : Reader β) : (Value.array []).toTree.read format (readList read) = .ok [] :=
  rfl

end Rereads

structure Cell (α : Type) where
  name : String
  required : Bool
  {Held : Type}
  read : Reader Held
  get : α → Held
  put : Held → α → α

def Cell.field (cell : Cell α) : Field α := ⟨cell.name,cell.required,fun r n a => (cell.put · a) <$> cell.read r n⟩

-- The cells are the fields of the record: none touches another or the rest, all
-- together they hold what is not the rest, and a default is read as what
-- `blank` holds.
structure Record.Laid (rec : Record α) (cells : List (Cell α)) {ρ : Type} (rest : α → ρ) : Prop where
  fields : rec.fields = cells.map Cell.field
  names : (cells.map Cell.name).Nodup
  get_put : ∀ cell ∈ cells, ∀ held a, cell.get (cell.put held a) = held
  get_other : ∀ cell ∈ cells, ∀ other ∈ cells, other.name ≠ cell.name →
    ∀ held a, other.get (cell.put held a) = other.get a
  rest_put : ∀ cell ∈ cells, ∀ held a, rest (cell.put held a) = rest a
  whole : ∀ a b, rest a = rest b → (∀ cell ∈ cells, cell.get a = cell.get b) → a = b
  blanks : ∀ cell ∈ cells, ∀ v, (cell.name,v) ∈ Value.defaults →
    cell.required = false ∧ v.toTree.read .json cell.read = .ok (cell.get rec.blank)

inductive Told (blank a : α) (depth : Nat) : List (Cell α) → List (String × Value) → Prop where
  | nil : Told blank a depth [] []
  | member {cell : Cell α} {cells : List (Cell α)} {v : Value} {members : List (String × Value)}
      (reads : Rereads cell.read depth (cell.get a) v) (rest : Told blank a depth cells members) :
      Told blank a depth (cell :: cells) ((cell.name,v) :: members)
  | omitted {cell : Cell α} {cells : List (Cell α)} {members : List (String × Value)}
      (optional : cell.required = false) (same : cell.get a = cell.get blank)
      (rest : Told blank a depth cells members) : Told blank a depth (cell :: cells) members

namespace Told
variable {blank a : α} {depth : Nat} {cells : List (Cell α)} {members : List (String × Value)}

theorem names (told : Told blank a depth cells members) :
    (members.map Prod.fst).Sublist (cells.map Cell.name) := by
  induction told with
  | nil => exact .slnil
  | member _ _ ih => exact ih.cons_cons _
  | omitted _ _ _ ih => exact ih.cons _

theorem cell_read (told : Told blank a depth cells members) {name : String} {v : Value}
    (inside : (name,v) ∈ members) : ∃ cell ∈ cells, cell.name = name ∧ Rereads cell.read depth (cell.get a) v := by
  induction told with
  | nil => exact absurd inside List.not_mem_nil
  | member reads _ ih =>
    rcases List.mem_cons.mp inside with here | later
    · cases here
      exact ⟨_,List.mem_cons_self,rfl,reads⟩
    · obtain ⟨cell,present,found⟩ := ih later
      exact ⟨cell,List.mem_cons_of_mem _ present,found⟩
  | omitted _ _ _ ih =>
    obtain ⟨cell,present,found⟩ := ih inside
    exact ⟨cell,List.mem_cons_of_mem _ present,found⟩

theorem untold (told : Told blank a depth cells members) {cell : Cell α} (inside : cell ∈ cells)
    (missing : cell.name ∉ members.map Prod.fst) : cell.required = false ∧ cell.get a = cell.get blank := by
  induction told with
  | nil => exact absurd inside List.not_mem_nil
  | member _ _ ih =>
    rw [List.map_cons,List.mem_cons,not_or] at missing
    rcases List.mem_cons.mp inside with rfl | later
    · exact absurd rfl missing.1
    · exact ih later missing.2
  | omitted optional same _ ih =>
    rcases List.mem_cons.mp inside with rfl | later
    · exact ⟨optional,same⟩
    · exact ih later missing

end Told

namespace Record
variable {ρ : Type} {rec : Record α} {cells : List (Cell α)} {rest : α → ρ}

theorem find_cell (names : (cells.map Cell.name).Nodup) {cell : Cell α} (inside : cell ∈ cells) :
    (cells.map Cell.field).find? (fun f => f.name == cell.name) = some cell.field := by
  induction cells with
  | nil => exact absurd inside List.not_mem_nil
  | cons first rest ih =>
    obtain ⟨fresh,others⟩ := List.nodup_cons.mp names
    rcases List.mem_cons.mp inside with rfl | later
    · exact List.find?_cons_of_pos (beq_self_eq_true _)
    · have apart : first.name ≠ cell.name := fun same => fresh (same ▸ List.mem_map_of_mem later)
      rw [List.map_cons,List.find?_cons_of_neg (by simpa [Cell.field] using apart)]
      exact ih others later

theorem field_cell (laid : rec.Laid cells rest) {cell : Cell α} (inside : cell ∈ cells) (r : Reading) (follows : Nat) :
    rec.field? r (.text cell.name) follows = .ok (some cell.field,follows) := by
  unfold field?
  rw [bind_ok (follow_text r cell.name follows)]
  cases kept : r.kept <;> simp only [Node.text,Node.bare,Node.words?,laid.fields,find_cell laid.names inside] <;> rfl

theorem readEntries_cell (laid : rec.Laid cells rest) {cell : Cell α} (inside : cell ∈ cells) {r : Reading} {n : Node}
    {held : cell.Held} {follows : Nat} (reads : cell.read r n follows = .ok (held,follows)) (a : α)
    {seen : List String} (fresh : cell.name ∉ seen) (entries : List (Node × Node)) :
    rec.readEntries r a seen ((.text cell.name,n) :: entries) follows =
      rec.readEntries r (cell.put held a) (cell.name :: seen) entries follows := by
  rw [readEntries,bind_ok (field_cell laid inside r follows)]
  simp only [show cell.field.name = cell.name from rfl,if_neg fresh]
  exact bind_ok (under_ok _ (map_ok (cell.put · a) reads))

theorem readEntries_row (laid : rec.Laid cells rest) {r : Reading} {depth : Nat} (fits : r.depth ≤ depth) {x : α}
    {row : List (String × Value)} (names : (row.map Prod.fst).Nodup)
    (told : ∀ name w, (name,w) ∈ row → ∃ cell ∈ cells, cell.name = name ∧ Rereads cell.read depth (cell.get x) w)
    (a : α) {seen : List String} (fresh : ∀ name ∈ row.map Prod.fst, name ∉ seen) (follows : Nat) :
    ∃ b, rec.readEntries r a seen (Value.toEntries row) follows =
        .ok ((b,(row.map Prod.fst).reverse ++ seen),follows) ∧
      rest b = rest a ∧ ∀ cell ∈ cells, cell.get b = if cell.name ∈ row.map Prod.fst then cell.get x else cell.get a := by
  induction row generalizing a seen with
  | nil => exact ⟨a,by rw [Value.toEntries]; rfl,rfl,fun _ _ => (if_neg List.not_mem_nil).symm⟩
  | cons member row ih =>
    obtain ⟨name,w⟩ := member
    obtain ⟨new,others⟩ := List.nodup_cons.mp names
    obtain ⟨cell,inside,rfl,reads⟩ := told name w List.mem_cons_self
    have unseen : ∀ other ∈ row.map Prod.fst, other ∉ cell.name :: seen := by
      intro other later met
      rcases List.mem_cons.mp met with rfl | earlier
      · exact new later
      · exact fresh other (List.mem_cons_of_mem _ later) earlier
    obtain ⟨b,read,same,held⟩ := ih others (fun name w later => told name w (List.mem_cons_of_mem _ later))
      (cell.put (cell.get x) a) unseen
    refine ⟨b,?_,same.trans (laid.rest_put cell inside _ a),?_⟩
    · rw [Value.toEntries,readEntries_cell laid inside (reads w .refl r follows fits) a
        (fresh _ List.mem_cons_self) (Value.toEntries row),read]
      simp
    · intro other present
      rw [held other present]
      by_cases same : other.name = cell.name
      · cases List.inj_on_of_nodup_map laid.names present inside same
        rw [if_neg new,List.map_cons,if_pos List.mem_cons_self,laid.get_put cell inside]
      · rw [laid.get_other cell inside other present same]
        simp only [List.map_cons,List.mem_cons,same,false_or]

theorem finish_told (laid : rec.Laid cells rest) {seen : List String}
    (all : ∀ cell ∈ cells, cell.required = true → cell.name ∈ seen) (a : α) (follows : Nat) :
    rec.finish (a,seen) follows = .ok (a,follows) := by
  have none : rec.firstMissing seen = none := by
    rw [firstMissing,laid.fields,List.find?_eq_none.mpr]
    · rfl
    · intro f inside missing
      obtain ⟨cell,present,rfl⟩ := List.mem_map.mp inside
      obtain ⟨required,unseen⟩ := Bool.and_eq_true_iff.mp missing
      exact of_decide_eq_true unseen (all cell present required)
  simp only [finish,none]
  rfl

theorem blank_left (laid : rec.Laid cells rest) {depth : Nat} {a : α} {members row : List (String × Value)}
    (told : Told rec.blank a depth cells members) (remains : Value.Remains members row) {cell : Cell α}
    (inside : cell ∈ cells) (missing : cell.name ∉ row.map Prod.fst) :
    cell.required = false ∧ cell.get a = cell.get rec.blank := by
  by_cases written : cell.name ∈ members.map Prod.fst
  · obtain ⟨⟨name,v⟩,member,same⟩ := List.mem_map.mp written
    obtain ⟨other,present,named,reads⟩ := told.cell_read member
    cases List.inj_on_of_nodup_map laid.names present inside (named.trans same)
    rcases remains.left name v member with stays | ⟨w,rewrites,standard⟩
    · exact absurd (same ▸ stays) missing
    · obtain ⟨optional,blank⟩ := laid.blanks cell inside w (named ▸ standard)
      exact ⟨optional,Except.ok.inj ((reads.whole rewrites .json).symm.trans blank)⟩
  · exact told.untold inside written

theorem read_remains (laid : rec.Laid cells rest) {depth : Nat} {a : α} {members row : List (String × Value)}
    (own : rest a = rest rec.blank) (told : Told rec.blank a (depth + 1) cells members)
    (remains : Value.Remains members row) {r : Reading} (fits : r.depth ≤ depth) (follows : Nat) :
    rec.read r (Value.object row).toNode follows = .ok (a,follows) := by
  have each : ∀ name w, (name,w) ∈ row →
      ∃ cell ∈ cells, cell.name = name ∧ Rereads cell.read (depth + 1) (cell.get a) w := by
    intro name w inside
    obtain ⟨v,member,rewrites⟩ := remains.kept name w inside
    obtain ⟨cell,present,named,reads⟩ := told.cell_read member
    exact ⟨cell,present,named,reads.rewritten rewrites⟩
  have deeper : r.deeper.depth ≤ depth + 1 := Nat.succ_le_succ fits
  obtain ⟨b,read,outside,held⟩ :=
    readEntries_row laid deeper remains.names each rec.blank (fun _ _ => List.not_mem_nil) follows
  have same : b = a := by
    apply laid.whole b a (outside.trans own.symm)
    intro cell inside
    rw [held cell inside]
    split
    · rfl
    · rename_i missing
      exact (blank_left laid told remains inside missing).2.symm
  subst same
  refine located r (.object row) ?_
  simp only [Value.toNode,Node.bare]
  rw [bind_ok read]
  refine finish_told laid ?_ b follows
  intro cell inside required
  by_cases missing : cell.name ∈ row.map Prod.fst
  · simpa using missing
  · exact absurd (required.symm.trans (blank_left laid told remains inside missing).1) (by decide)

theorem rereads (laid : rec.Laid cells rest) {depth : Nat} {a : α} {members : List (String × Value)}
    (own : rest a = rest rec.blank) (told : Told rec.blank a (depth + 1) cells members) :
    Rereads rec.read depth a (.object members) := by
  intro w rewrites r follows fits
  obtain ⟨row,rfl,remains⟩ := Value.rewrites_object (told.names.nodup laid.names) rewrites
  exact read_remains laid own told remains fits follows

end Record

end SharedVerifiers.Document
