import SharedVerifiers.Template
namespace SharedVerifiers.Template

-- A template letter by letter. A value is one mark, whatever it holds: a brace
-- or a quote inside it is none of the template's own.
inductive Mark where
  | letter (c : Char)
  | value (s : Slot)
  | ifGeneric (words : String)
deriving DecidableEq,Repr

def Mark.written (slots : Slots) : Mark → List Char
  | .letter c => [c]
  | .value s => (slots.get s).toList
  | .ifGeneric words => if slots.generic then words.toList else []

def written (slots : Slots) (row : List Mark) : List Char := row.flatMap (Mark.written slots)

def letters (words : List Char) : List Mark := words.map .letter

def Part.marks : Part → List Mark
  | .text words => letters words.toList
  | .slot s => [.value s]
  | .ifGeneric words => [.ifGeneric words]

def marks (t : Template) : List Mark := t.parts.flatMap Part.marks

-- The same row letter by letter, ready for the kernel. To compute the letters of
-- a text would lead through its bytes.
def spelled (t : Template) : {row : List Mark // t.marks = row} := by
  rcases t with (_ | _ | _ | _ | _) | _
  all_goals
    apply Subtype.mk
    simp only [marks,parts,typeParts,attrParts,propParts,successorParts,regionParts,matcherParts,List.flatMap_cons,
      List.flatMap_nil,Part.marks]
    repeat rewrite [String.toList_ofList]
    rfl

theorem written_append (slots : Slots) (front back : List Mark) :
    written slots (front ++ back) = written slots front ++ written slots back :=
  List.flatMap_append

theorem written_cons (slots : Slots) (m : Mark) (rest : List Mark) :
    written slots (m :: rest) = m.written slots ++ written slots rest :=
  List.flatMap_cons

theorem written_letters (slots : Slots) (words : List Char) : written slots (letters words) = words := by
  induction words with
  | nil => rfl
  | cons c rest ih => exact congrArg (c :: ·) ih

theorem Part.written_marks (slots : Slots) (p : Part) : written slots p.marks = (p.render slots).toList := by
  cases p with
  | text words => exact written_letters slots words.toList
  | slot s => exact List.append_nil _
  | ifGeneric words =>
    simp only [marks,render,written,List.flatMap_singleton,Mark.written]
    split <;> rfl

theorem written_marks (t : Template) (slots : Slots) : written slots t.marks = (t.render slots).toList := by
  rw [render,String.toList_join,List.flatMap_map,marks,written,List.flatMap_assoc]
  exact congrArg (t.parts.flatMap ·) (funext (Part.written_marks slots))

theorem value_taken {t : Template} {s : Slot} (taken : .slot s ∈ t.parts) : .value s ∈ t.marks :=
  List.mem_flatMap.mpr ⟨_,taken,List.mem_singleton.mpr rfl⟩

def inFront (t : Template) (s : Slot) : List Mark := t.marks.takeWhile (· ≠ .value s)
def behind (t : Template) (s : Slot) : List Mark := (t.marks.dropWhile (· ≠ .value s)).tail

theorem marks_around {t : Template} {s : Slot} (taken : .slot s ∈ t.parts) :
    t.marks = t.inFront s ++ .value s :: t.behind s := by
  obtain ⟨front,back,split,new⟩ := List.eq_append_cons_of_mem (value_taken taken)
  have passed : ∀ m ∈ front, decide (m ≠ .value s) = true := by
    intro m member
    have other : m ≠ .value s := fun same => new (same ▸ member)
    simpa using other
  have first : t.inFront s = front := by
    rw [inFront,split,List.takeWhile_append_of_pos passed]
    simp
  have second : t.behind s = back := by
    rw [behind,split,List.dropWhile_append_of_pos passed]
    simp
  rw [first,second,split]

end SharedVerifiers.Template
