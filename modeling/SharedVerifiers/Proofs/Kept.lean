import SharedVerifiers.Document.TaggedUnion
import SharedVerifiers.Proofs.Rereading
namespace SharedVerifiers.Document
open Json (Value)

def Texts (row : List (String × Value)) : Prop := ∀ member ∈ row, ∃ words, member.2 = .text words

theorem Texts.rewritten {members : List (String × Value)} (names : (members.map Prod.fst).Nodup) (texts : Texts members)
    {w : Value} (rewrites : Value.Rewrites (.object members) w) : ∃ row, w = .object row ∧ Texts row := by
  obtain ⟨row,rfl,remains⟩ := Value.rewrites_object names rewrites
  refine ⟨row,rfl,?_⟩
  intro (name,w) inside
  obtain ⟨v,member,rewrites⟩ := remains.kept name w inside
  obtain ⟨words,same⟩ := texts (name,v) member
  cases same
  exact ⟨words,Value.rewrites_fixed (Value.text_fixed words) rewrites⟩

theorem room_map (r : Reading) (shallow : r.depth ≤ 126) (entries : List (Node × Node)) (closed : Bool) :
    ∃ room, r.room (.map entries closed) = room + 1 := by
  apply Nat.exists_eq_succ_of_ne_zero
  unfold Reading.room
  cases r.format <;> simp only [Format.depthLimit,Node.height] <;> omega

theorem keepWithin_text (room : Nat) (r : Reading) (words : String) (follows : Nat) :
    keepWithin room r (.text words) follows = .ok (.text words,follows) := by
  cases room <;> rfl

theorem keepEntries_texts {row : List (String × Value)} (texts : Texts row) (room : Nat) (r : Reading) (follows : Nat) :
    keepWith.keepEntries (keepWithin room) r (Value.toEntries row) follows = .ok (Value.toEntries row,follows) := by
  induction row with
  | nil =>
    rw [Value.toEntries]
    rfl
  | cons member row ih =>
    obtain ⟨name,w⟩ := member
    obtain ⟨⟨words,same⟩,rest⟩ := List.forall_mem_cons.mp texts
    cases same
    rw [Value.toEntries,Value.toNode,keepWith.keepEntries,bind_ok (keepWithin_text room r name follows),
      bind_ok (under_ok _ (keepWithin_text room r words follows)),bind_ok (ih rest)]
    rfl

theorem keep_texts {row : List (String × Value)} (texts : Texts row) {r : Reading} (shallow : r.depth ≤ 126)
    (follows : Nat) :
    (Value.object row).toNode.keep r follows = .ok ((Value.object row).toNode,follows) := by
  obtain ⟨room,enough⟩ := room_map r shallow (Value.toEntries row) true
  rw [Node.keep,Value.toNode,enough,keepWithin,keepWith,bind_ok (by rfl : r.follow _ follows = .ok (_,follows))]
  refine locate_ok r ?_
  rw [bind_ok (keepEntries_texts texts room r.deeper follows)]
  rfl

namespace TaggedUnion
variable {α : Type}

theorem readKey_text (u : TaggedUnion α) (r : Reading) (words : String) (follows : Nat) :
    u.readKey r (.text words) follows = .ok (.text words,follows) := by
  rw [readKey,bind_ok (follow_text r words follows)]
  exact keepWithin_text _ r words follows

theorem readEntries_tag (u : TaggedUnion α) {r : Reading} {n : Node} {variant : α} {follows : Nat}
    (named : readWord u.choices u.name r n follows = .ok (variant,follows)) (entries : List (Node × Node)) :
    u.readEntries r none ((.text u.tag,n) :: entries) follows = u.readEntries r (some variant) entries follows := by
  rw [readEntries,bind_ok (u.readKey_text r u.tag follows)]
  simp only [show (Node.text u.tag).words? = some u.tag from rfl]
  exact bind_ok (under_ok _ named)

theorem readEntries_other (u : TaggedUnion α) {r : Reading} {name : String} {n : Node} {follows : Nat}
    (apart : name ≠ u.tag) (kept : n.keep r follows = .ok (n,follows)) {chosen found : Option α}
    {entries more : List (Node × Node)} (others : u.readEntries r chosen entries follows = .ok ((found,more),follows)) :
    u.readEntries r chosen ((.text name,n) :: entries) follows = .ok ((found,(.text name,n) :: more),follows) := by
  rw [readEntries,bind_ok (u.readKey_text r name follows)]
  have other : (Node.text name).words? ≠ some u.tag := fun same => apart (Option.some.inj same)
  simp only [if_neg other]
  rw [bind_ok (under_ok _ kept),bind_ok others]
  rfl

theorem readEntries_row (u : TaggedUnion α) {r : Reading} {variant : α} {follows : Nat} {row : List (String × Value)}
    (names : (row.map Prod.fst).Nodup)
    (tagged : ∀ w, (u.tag,w) ∈ row → readWord u.choices u.name r w.toNode follows = .ok (variant,follows))
    (kept : ∀ name w, (name,w) ∈ row → name ≠ u.tag → w.toNode.keep r follows = .ok (w.toNode,follows))
    {chosen : Option α} (unchosen : u.tag ∈ row.map Prod.fst → chosen = none) :
    u.readEntries r chosen (Value.toEntries row) follows =
      .ok ((if u.tag ∈ row.map Prod.fst then some variant else chosen,
        Value.toEntries (row.filter fun member => member.1 ≠ u.tag)),follows) := by
  induction row generalizing chosen with
  | nil =>
    rw [Value.toEntries]
    rfl
  | cons member row ih =>
    obtain ⟨name,w⟩ := member
    obtain ⟨new,others⟩ := List.nodup_cons.mp names
    have later := @ih others (fun w inside => tagged w (List.mem_cons_of_mem _ inside))
      (fun name w inside => kept name w (List.mem_cons_of_mem _ inside))
    rw [Value.toEntries]
    by_cases tag : name = u.tag
    · subst tag
      cases unchosen List.mem_cons_self
      rw [u.readEntries_tag (tagged w List.mem_cons_self),later (fun again => absurd again new),if_neg new,
        List.map_cons,if_pos List.mem_cons_self,List.filter_cons_of_neg (by simp)]
    · have still : u.tag ∈ row.map Prod.fst → chosen = none := fun after => unchosen (List.mem_cons_of_mem _ after)
      rw [u.readEntries_other tag (kept name w List.mem_cons_self tag) (later still),
        List.filter_cons_of_pos (by simpa using tag),Value.toEntries]
      simp only [List.map_cons,List.mem_cons,Ne.symm tag,false_or]

theorem read_row (u : TaggedUnion α) {r : Reading} (shallow : r.depth ≤ 126) {variant : α} {follows : Nat}
    {row : List (String × Value)} (names : (row.map Prod.fst).Nodup) (present : u.tag ∈ row.map Prod.fst)
    (tagged : ∀ w, (u.tag,w) ∈ row → readWord u.choices u.name r.deeper w.toNode follows = .ok (variant,follows))
    (kept : ∀ name w, (name,w) ∈ row → name ≠ u.tag → w.toNode.keep r.deeper follows = .ok (w.toNode,follows)) :
    u.read r (Value.object row).toNode follows =
      .ok ((variant,(Value.object (row.filter fun member => member.1 ≠ u.tag)).toNode),follows) := by
  obtain ⟨room,enough⟩ := room_map r shallow (Value.toEntries row) true
  refine located r (.object row) ?_
  simp only [Value.toNode,enough]
  have unchosen : u.tag ∈ row.map Prod.fst → (none : Option α) = none := fun _ => rfl
  have entries := u.readEntries_row names tagged kept unchosen
  rw [if_pos present] at entries
  rw [if_neg (Nat.succ_ne_zero room),bind_ok entries]
  rfl

end TaggedUnion

end SharedVerifiers.Document
