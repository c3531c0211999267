import SharedVerifiers.Description.Reading
import SharedVerifiers.Description.Writing
import SharedVerifiers.Proofs.Kept
namespace SharedVerifiers
open Document
open Json (Value)

def Constraint.cells : List (Cell Constraint) := [
  ⟨"condition",false,readText,Constraint.condition,fun x c => {c with condition := x}⟩,
  ⟨"summary",false,readText,Constraint.summary,fun x c => {c with summary := x}⟩,
  ⟨"interface_type",false,readOption readText,Constraint.interfaceType,fun x c => {c with interfaceType := x}⟩]

theorem Constraint.laid : Constraint.record.Laid cells fun _ => () where
  fields := rfl
  names := by decide
  get_put := by simp [cells]
  get_other := by simp [cells]
  rest_put := by simp [cells]
  whole := by
    rintro ⟨_,_,_⟩ ⟨_,_,_⟩
    simp [cells]
  blanks := by simp [cells,record,Value.defaults,Value.defaultOptions]

theorem Constraint.written (c : Constraint) : ∃ members, c.toJson = .object members ∧ Texts members ∧
    ∀ depth, Told Constraint.record.blank c depth cells members := by
  obtain ⟨condition,summary,interface⟩ := c
  refine ⟨_,rfl,?_,?_⟩
  · cases interface <;> simp [Texts,optionalMember]
  · intro depth
    refine .member (.text _ condition) (.member (.text _ summary) ?_)
    cases interface with
    | none => exact .omitted rfl rfl .nil
    | some words => exact .member (.option nofun (.text _ words)) .nil

theorem Constraint.rereads (depth : Nat) (c : Constraint) : Rereads Constraint.record.read depth c c.toJson := by
  obtain ⟨members,json,_,told⟩ := c.written
  rw [json]
  exact Record.rereads laid rfl (told _)

theorem Constraint.texts (c : Constraint) {w : Value} (rewrites : Value.Rewrites c.toJson w) :
    ∃ row, w = .object row ∧ Texts row := by
  obtain ⟨members,json,texts,told⟩ := c.written
  rw [json] at rewrites
  exact texts.rewritten ((told 0).names.nodup laid.names) rewrites

def Options.cells : List (Cell Options) := [
  ⟨"name_prefix",false,readText,Options.namePrefix,fun x o => {o with namePrefix := x}⟩,
  ⟨"tag",false,readText,Options.tag,fun x o => {o with tag := x}⟩,
  ⟨"source_extension",false,readText,Options.sourceExtension,fun x o => {o with sourceExtension := x}⟩]

theorem Options.laid : Options.record.Laid cells fun _ => () where
  fields := rfl
  names := by decide
  get_put := by simp [cells]
  get_other := by simp [cells]
  rest_put := by simp [cells]
  whole := by
    rintro ⟨_,_,_⟩ ⟨_,_,_⟩
    simp [cells]
  blanks := by simp [cells,record,Value.defaults,Value.defaultOptions]

theorem Options.rereads (depth : Nat) (o : Options) : Rereads Options.record.read depth o o.toJson :=
  Record.rereads laid rfl (.member (.text _ _) (.member (.text _ _) (.member (.text _ _) .nil)))

def Operation.TypedValue.cells : List (Cell Operation.TypedValue) := [
  ⟨"name",true,readText,Operation.TypedValue.name,fun x v => {v with name := x}⟩,
  ⟨"constraint",false,readOption Constraint.record.read,Operation.TypedValue.constraint,
    fun x v => {v with constraint := x}⟩]

theorem Operation.TypedValue.laid : Operation.TypedValue.record.Laid cells fun _ => () where
  fields := rfl
  names := by decide
  get_put := by simp [cells]
  get_other := by simp [cells]
  rest_put := by simp [cells]
  whole := by
    rintro ⟨_,_⟩ ⟨_,_⟩
    simp [cells]
  blanks := by simp [cells,Value.defaults,Value.defaultOptions]

theorem Operation.TypedValue.rereads (depth : Nat) (v : Operation.TypedValue) :
    Rereads Operation.TypedValue.record.read depth v v.toJson := by
  obtain ⟨name,constraint⟩ := v
  refine Record.rereads laid rfl (.member (.text _ name) ?_)
  cases constraint with
  | none => exact .omitted rfl rfl .nil
  | some c => exact .member (.option nofun (c.rereads _)) .nil

def Operation.Attribute.cells : List (Cell Operation.Attribute) := [
  ⟨"name",true,readText,Operation.Attribute.name,fun x a => {a with name := x}⟩,
  ⟨"constraint",true,Constraint.record.read,Operation.Attribute.constraint,fun x a => {a with constraint := x}⟩,
  ⟨"derived",false,readFlag,Operation.Attribute.derived,fun x a => {a with derived := x}⟩]

theorem Operation.Attribute.laid : Operation.Attribute.record.Laid cells fun _ => () where
  fields := rfl
  names := by decide
  get_put := by simp [cells]
  get_other := by simp [cells]
  rest_put := by simp [cells]
  whole := by
    rintro ⟨_,_,_⟩ ⟨_,_,_⟩
    simp [cells]
  blanks := by simp [cells,record,Value.defaults,Value.defaultOptions]

theorem Operation.Attribute.rereads (depth : Nat) (a : Operation.Attribute) :
    Rereads Operation.Attribute.record.read depth a a.toJson :=
  Record.rereads laid rfl (.member (.text _ _) (.member (a.constraint.rereads _) (.member (.flag _ _) .nil)))

def Operation.Part.cells : List (Cell Operation.Part) := [
  ⟨"name",true,readText,Operation.Part.name,fun x p => {p with name := x}⟩,
  ⟨"constraint",true,Constraint.record.read,Operation.Part.constraint,fun x p => {p with constraint := x}⟩]

theorem Operation.Part.laid (title : String) : (Operation.Part.record title).Laid cells fun _ => () where
  fields := rfl
  names := by decide
  get_put := by simp [cells]
  get_other := by simp [cells]
  rest_put := by simp [cells]
  whole := by
    rintro ⟨_,_⟩ ⟨_,_⟩
    simp [cells]
  blanks := by simp [cells,Value.defaults,Value.defaultOptions]

theorem Operation.Part.rereads (title : String) (depth : Nat) (p : Operation.Part) :
    Rereads (Operation.Part.record title).read depth p p.toJson :=
  Record.rereads (laid title) rfl (.member (.text _ _) (.member (p.constraint.rereads _) .nil))

def Operation.cells : List (Cell Operation) := [
  ⟨"name",true,readText,Operation.name,fun x o => {o with name := x}⟩,
  ⟨"operands",false,readList TypedValue.record.read,Operation.operands,fun x o => {o with operands := x}⟩,
  ⟨"results",false,readList TypedValue.record.read,Operation.results,fun x o => {o with results := x}⟩,
  ⟨"attributes",false,readList Attribute.record.read,Operation.attributes,fun x o => {o with attributes := x}⟩,
  ⟨"properties",false,readList propertyRecord.read,Operation.properties,fun x o => {o with properties := x}⟩,
  ⟨"successors",false,readList successorRecord.read,Operation.successors,fun x o => {o with successors := x}⟩,
  ⟨"regions",false,readList regionRecord.read,Operation.regions,fun x o => {o with regions := x}⟩]

theorem Operation.laid : Operation.record.Laid cells fun _ => () where
  fields := rfl
  names := by decide
  get_put := by simp [cells]
  get_other := by simp [cells]
  rest_put := by simp [cells]
  whole := by
    rintro ⟨_,_,_,_,_,_,_⟩ ⟨_,_,_,_,_,_,_⟩
    simp [cells]
  blanks := by simp [cells,record,Value.defaults,Value.defaultOptions]

theorem Operation.rereads (depth : Nat) (op : Operation) : Rereads Operation.record.read depth op op.toJson :=
  Record.rereads laid rfl (.member (.text _ _)
    (.member (.list fun v _ => v.rereads _) (.member (.list fun v _ => v.rereads _)
      (.member (.list fun a _ => a.rereads _)
        (.member (.list fun p _ => p.rereads _ _) (.member (.list fun p _ => p.rereads _ _)
          (.member (.list fun p _ => p.rereads _ _) .nil)))))))

def Leaf.cells : List (Cell Leaf) := [
  ⟨"constraint",true,Constraint.record.read,Leaf.constraint,fun x l => {l with constraint := x}⟩]

theorem Leaf.laid (role : Role) : (Leaf.variant role).Laid cells Leaf.role where
  fields := rfl
  names := by decide
  get_put := by simp [cells]
  get_other := by simp [cells]
  rest_put := by simp [cells]
  whole := by
    rintro ⟨_,_⟩ ⟨_,_⟩ rfl
    simp [cells]
  blanks := by simp [cells,Value.defaults,Value.defaultOptions]

theorem Leaf.rereads {depth : Nat} (shallow : depth ≤ 125) (l : Leaf) : Rereads Leaf.read depth l l.toJson := by
  intro w rewrites r follows fits
  have names : ([("kind",Value.text l.role.name),("constraint",l.constraint.toJson)].map Prod.fst).Nodup :=
    (by decide : ["kind","constraint"].Nodup)
  obtain ⟨row,rfl,remains⟩ := Value.rewrites_object names rewrites
  have present : union.tag ∈ row.map Prod.fst := by
    rcases remains.left "kind" _ List.mem_cons_self with stays | ⟨_,_,standard⟩
    · exact stays
    · simp [Value.defaults,Value.defaultOptions] at standard
  have deeper : r.deeper.depth ≤ depth + 1 := Nat.succ_le_succ fits
  have tagged : ∀ w, (union.tag,w) ∈ row →
      readWord union.choices union.name r.deeper w.toNode follows = .ok (l.role,follows) := by
    intro w inside
    obtain ⟨v,member,rewrites⟩ := remains.kept union.tag w inside
    cases Value.member_unique names member List.mem_cons_self
    exact Rereads.word l.role.ofName_name _ w rewrites r.deeper follows deeper
  have kept : ∀ name w, (name,w) ∈ row → name ≠ union.tag →
      w.toNode.keep r.deeper follows = .ok (w.toNode,follows) := by
    intro name w inside apart
    obtain ⟨v,member,rewrites⟩ := remains.kept name w inside
    rcases List.mem_cons.mp member with same | later
    · exact absurd (congrArg Prod.fst same) apart
    · cases List.mem_singleton.mp later
      obtain ⟨texts,rfl,plain⟩ := l.constraint.texts rewrites
      exact keep_texts plain (by omega) follows
  have told : Told (variant l.role).blank l (depth + 1) cells [("constraint",l.constraint.toJson)] :=
    .member (l.constraint.rereads _) .nil
  have own : l.role = (variant l.role).blank.role := rfl
  have inner : ({r with kept := true} : Reading).depth ≤ depth := fits
  unfold read
  rw [bind_ok (union.read_row (by omega) remains.names present tagged kept)]
  exact Record.read_remains (laid l.role) own told (remains.others (by simp)) inner follows

def Description.cells : List (Cell Description) := [
  ⟨"source",false,readOption readText,Description.source,fun x d => {d with source := x}⟩,
  ⟨"options",false,Options.record.read,Description.options,fun x d => {d with options := x}⟩,
  ⟨"ops",false,readList Operation.record.read,Description.operations,fun x d => {d with operations := x}⟩,
  ⟨"patterns",false,readList Leaf.read,Description.leaves,fun x d => {d with leaves := x}⟩]

theorem Description.laid : Description.record.Laid cells fun _ => () where
  fields := rfl
  names := by decide
  get_put := by simp [cells]
  get_other := by simp [cells]
  rest_put := by simp [cells]
  whole := by
    rintro ⟨_,_,_,_⟩ ⟨_,_,_,_⟩
    simp [cells]
  blanks := by
    have options : (Value.object Value.defaultOptions).toTree.read .json Options.record.read = .ok {} :=
      (Options.rereads 0 {}).whole .refl .json
    simp only [Value.defaultOptions] at options
    simp [cells,record,Value.defaults,Value.defaultOptions,options]

theorem Description.rereads {depth : Nat} (shallow : depth ≤ 123) (d : Description) :
    Rereads Description.record.read depth d d.toJson := by
  obtain ⟨source,options,operations,leaves⟩ := d
  have rest : Told Description.record.blank ⟨source,options,operations,leaves⟩ (depth + 1) cells.tail
      [("options",options.toJson),("ops",.array (operations.map Operation.toJson)),
        ("patterns",.array (leaves.map Leaf.toJson))] :=
    .member (options.rereads _) (.member (.list fun op _ => op.rereads _)
      (.member (.list fun l _ => l.rereads (by omega)) .nil))
  cases source with
  | none => exact Record.rereads laid rfl (.omitted rfl rfl rest)
  | some words => exact Record.rereads laid rfl (.member (.option nofun (.text _ words)) rest)

theorem Counts.mem_toList (c : Counts) (k : Kind) (n : Nat) : (k,n) ∈ c.toList ↔ c.get? k = some n := by
  simp [toList,Kind.mem_all]

theorem Counts.names_distinct (c : Counts) :
    ((c.toList.map fun (k,n) => (k.name,Value.natural n)).map Prod.fst).Nodup := by
  rw [toList,List.map_filterMap,List.map_filterMap]
  refine List.Nodup.filterMap ?_ (by decide)
  intro k other name here there
  simp only [Option.map_map,Option.mem_def,Option.map_eq_some_iff] at here there
  obtain ⟨_,_,rfl⟩ := here
  obtain ⟨_,_,same⟩ := there
  exact Kind.name_injective same.symm

theorem Counts.same {c other : Counts} (all : ∀ k, c.get? k = other.get? k) : c = other := by
  cases c
  cases other
  simp only [mk.injEq]
  exact ⟨all .type,all .attr,all .prop,all .successor,all .region⟩

theorem Counts.readEntries_row (c : Counts) {row : List (String × Value)}
    (told : ∀ member ∈ row, ∃ k n, member = (k.name,.natural n) ∧ c.get? k = some n) (r : Reading) (start : Counts)
    (follows : Nat) :
    ∃ last, readEntries r start (Value.toEntries row) follows = .ok (last,follows) ∧
      ∀ k, last.get? k = if k.name ∈ row.map Prod.fst then c.get? k else start.get? k := by
  induction row generalizing start with
  | nil => exact ⟨start,by rw [Value.toEntries]; rfl,fun _ => (if_neg List.not_mem_nil).symm⟩
  | cons member row ih =>
    obtain ⟨⟨k,n,rfl,counted⟩,others⟩ := List.forall_mem_cons.mp told
    obtain ⟨last,read,held⟩ := ih others (start.set k n)
    refine ⟨last,?_,?_⟩
    · have number : readCount "usize" r (Value.natural n).toNode follows = .ok (n,follows) :=
        located r (.natural n) rfl
      rw [Value.toEntries,readEntries]
      simp only [show (Node.text k.name).words? = some k.name from rfl]
      rw [bind_ok (chooseWord_found k.ofName_name follows),bind_ok number,read]
    · intro asked
      rw [held asked,get_set,List.map_cons]
      by_cases same : asked = k
      · subst same
        rw [if_pos List.mem_cons_self,if_pos rfl,counted,ite_self]
      · have apart : asked.name ≠ k.name := fun named => same (Kind.name_injective named)
        simp only [List.mem_cons,apart,same,false_or,if_false]

theorem Kind.name_not_default (k : Kind) (v : Value) : (k.name,v) ∉ Value.defaults := by
  cases k <;> simp [Value.defaults,Value.defaultOptions,Kind.name]

theorem Counts.rereads (depth : Nat) (c : Counts) : Rereads Counts.read depth c c.toJson := by
  intro w rewrites r follows fits
  obtain ⟨row,rfl,remains⟩ := Value.rewrites_object c.names_distinct rewrites
  have told : ∀ member ∈ row, ∃ k n, member = (k.name,Value.natural n) ∧ c.get? k = some n := by
    intro (name,w) inside
    obtain ⟨v,member,rewrites⟩ := remains.kept name w inside
    obtain ⟨⟨k,n⟩,counted,same⟩ := List.mem_map.mp member
    cases same
    cases Value.rewrites_fixed (Value.number_fixed (.natural n)) rewrites
    exact ⟨k,n,rfl,(c.mem_toList k n).mp counted⟩
  obtain ⟨last,read,held⟩ := c.readEntries_row told r.deeper {} follows
  have same : last = c := by
    apply Counts.same
    intro k
    rw [held k]
    cases counted : c.get? k with
    | none =>
      have empty : ({} : Counts).get? k = none := by cases k <;> rfl
      rw [empty,ite_self]
    | some n =>
      refine if_pos ?_
      rcases remains.left k.name (.natural n) (List.mem_map.mpr ⟨(k,n),(c.mem_toList k n).mpr counted,rfl⟩)
        with stays | ⟨w,_,standard⟩
      · exact stays
      · exact absurd standard (k.name_not_default w)
  subst same
  refine located r (.object row) ?_
  simp only [Value.toNode,Node.bare]
  rw [bind_ok read]
  rfl

def Report.cells : List (Cell Report) := [
  ⟨"label",true,readText,Report.label,fun x t => {t with label := x}⟩,
  ⟨"entry_point",true,EntryPoint.read,Report.entryPoint,fun x t => {t with entryPoint := x}⟩,
  ⟨"instances",true,Counts.read,Report.instances,fun x t => {t with instances := x}⟩,
  ⟨"bytes",true,readCount "u64",Report.bytes,fun x t => {t with bytes := x}⟩,
  ⟨"output_hash",true,readText,Report.outputHash,fun x t => {t with outputHash := x}⟩]

theorem Report.laid : Report.record.Laid cells fun _ => () where
  fields := rfl
  names := by decide
  get_put := by simp [cells]
  get_other := by simp [cells]
  rest_put := by simp [cells]
  whole := by
    rintro ⟨_,_,_,_,_⟩ ⟨_,_,_,_,_⟩
    simp [cells]
  blanks := by simp [cells,Value.defaults,Value.defaultOptions]

theorem Report.rereads (depth : Nat) (report : Report) : Rereads Report.record.read depth report report.toJson :=
  Record.rereads laid rfl (.member (.text _ _) (.member (.choice report.entryPoint.ofName_name _)
    (.member (report.instances.rereads _) (.member (.natural "u64" _ _) (.member (.text _ _) .nil)))))

-- What is written is read back as it was, whatever defaults are left out and
-- however the members are ordered.
theorem writing_read_back (format : Format) :
    (∀ (d : Description) (w : Value), Value.Rewrites d.toJson w → w.toTree.read format Description.record.read = .ok d) ∧
    (∀ (op : Operation) (w : Value), Value.Rewrites op.toJson w → w.toTree.read format Operation.record.read = .ok op) ∧
    (∀ (v : Operation.TypedValue) (w : Value), Value.Rewrites v.toJson w →
      w.toTree.read format Operation.TypedValue.record.read = .ok v) ∧
    (∀ (a : Operation.Attribute) (w : Value), Value.Rewrites a.toJson w →
      w.toTree.read format Operation.Attribute.record.read = .ok a) ∧
    (∀ (p : Operation.Part) (w : Value), Value.Rewrites p.toJson w →
      w.toTree.read format Operation.propertyRecord.read = .ok p ∧
      w.toTree.read format Operation.successorRecord.read = .ok p ∧
      w.toTree.read format Operation.regionRecord.read = .ok p) ∧
    (∀ (l : Leaf) (w : Value), Value.Rewrites l.toJson w → w.toTree.read format Leaf.read = .ok l) ∧
    (∀ (c : Constraint) (w : Value), Value.Rewrites c.toJson w → w.toTree.read format Constraint.record.read = .ok c) ∧
    (∀ (o : Options) (w : Value), Value.Rewrites o.toJson w → w.toTree.read format Options.record.read = .ok o) ∧
    (∀ (report : Report) (w : Value), Value.Rewrites report.toJson w →
      w.toTree.read format Report.record.read = .ok report) := by
  refine ⟨?_,?_,?_,?_,?_,?_,?_,?_,?_⟩
  · exact fun d _ rewrites => (d.rereads (Nat.zero_le 123)).whole rewrites format
  · exact fun op _ rewrites => (op.rereads 0).whole rewrites format
  · exact fun v _ rewrites => (v.rereads 0).whole rewrites format
  · exact fun a _ rewrites => (a.rereads 0).whole rewrites format
  · exact fun p _ rewrites => ⟨(p.rereads _ 0).whole rewrites format,(p.rereads _ 0).whole rewrites format,
      (p.rereads _ 0).whole rewrites format⟩
  · exact fun l _ rewrites => (l.rereads (Nat.zero_le 125)).whole rewrites format
  · exact fun c _ rewrites => (c.rereads 0).whole rewrites format
  · exact fun o _ rewrites => (o.rereads 0).whole rewrites format
  · exact fun report _ rewrites => (report.rereads 0).whole rewrites format

-- A source that is given and empty, and defaults nearly everywhere.
def sparse : Description where
  source := some ""
  operations := [{name := "add"}]
  leaves := [⟨.operand,{interfaceType := some ""}⟩]

def sparseWritten : Value := .object [
  ("source",.text ""),
  ("ops",.array [.object [("name",.text "add")]]),
  ("patterns",.array [.object [("constraint",.object [("interface_type",.text "")]),("kind",.text "operand")]])]

theorem writing_read_back_sparse :
    Value.Rewrites sparse.toJson sparseWritten ∧
    sparseWritten.toTree.read .json Description.record.read = .ok sparse := by
  have op : Value.Rewrites ({name := "add"} : Operation).toJson (.object [("name",.text "add")]) :=
    Value.rewrites_selected (fun _ => false) [("name",.text "add")] (by simp [Value.defaults])
  have constraint : Value.Rewrites ({interfaceType := some ""} : Constraint).toJson
      (.object [("interface_type",.text "")]) :=
    Value.rewrites_selected (fun member => member.1 == "interface_type") []
      (by simp [Value.defaults,optionalMember])
  have leaf : Value.Rewrites (⟨.operand,{interfaceType := some ""}⟩ : Leaf).toJson
      (.object [("constraint",.object [("interface_type",.text "")]),("kind",.text "operand")]) :=
    (Value.rewrites_member [("kind",.text "operand")] [] "constraint" constraint).tail (.swapped [] [] _ _)
  have options : Value.Rewrites sparse.toJson (.object [("source",.text ""),
      ("ops",.array [({name := "add"} : Operation).toJson]),
      ("patterns",.array [(⟨.operand,{interfaceType := some ""}⟩ : Leaf).toJson])]) :=
    .single (.dropped [("source",.text "")] _ (by simp [Value.defaults,Value.defaultOptions,sparse,Options.toJson]))
  have ops := Value.rewrites_member [("source",.text "")]
    [("patterns",.array [(⟨.operand,{interfaceType := some ""}⟩ : Leaf).toJson])] "ops" (Value.rewrites_item [] [] op)
  have patterns := Value.rewrites_member [("source",.text ""),("ops",.array [.object [("name",.text "add")]])] [] "patterns"
    (Value.rewrites_item [] [] leaf)
  have whole : Value.Rewrites sparse.toJson sparseWritten := options.trans (ops.trans patterns)
  exact ⟨whole,(writing_read_back .json).1 sparse _ whole⟩

end SharedVerifiers
