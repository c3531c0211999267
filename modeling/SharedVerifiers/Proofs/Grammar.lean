import Mathlib.Logic.Basic
import Mathlib.Logic.ExistsUnique
import SharedVerifiers.Proofs.Placeholders
namespace SharedVerifiers.Condition

def ClosesName (following : List Char) : Prop := ∀ c ∈ following.head?, isNameChar c = false

instance (following : List Char) : Decidable (ClosesName following) :=
  inferInstanceAs (Decidable (∀ c ∈ following.head?, isNameChar c = false))

-- Rows as the grammar of templates has them. What may come behind a piece is a
-- matter of the text behind it, not of the next piece.
inductive Normal : List Piece → Prop where
  | nil : Normal []
  | plain {c : Char} {rest : List Piece} (visible : c ≠ '$') (normal : Normal rest) : Normal (.plain c :: rest)
  | doubled {rest : List Piece} (normal : Normal rest) : Normal (.doubled :: rest)
  | lone {rest : List Piece} (closes : ClosesName (print rest)) (single : (print rest).head? ≠ some '$')
      (normal : Normal rest) : Normal (.lone :: rest)
  | hole {name : List Char} {rest : List Piece} (named : name ≠ []) (chars : ∀ c ∈ name, isNameChar c = true)
      (closes : ClosesName (print rest)) (normal : Normal rest) : Normal (.hole name :: rest)

theorem print_cons (piece : Piece) (rest : List Piece) : print (piece :: rest) = piece.print ++ print rest :=
  List.flatMap_cons

theorem print_closeDollar (name : List Char) : (closeDollar name).print = '$' :: name.reverse := by
  unfold closeDollar
  split
  · rename_i empty
    subst empty
    rfl
  · rfl

section
variable {c : Char} {name rest following : List Char}

theorem scan_plain (visible : c ≠ '$') : scan none (c :: rest) = .plain c :: scan none rest := by
  simp [scan,visible]

theorem scan_dollar : scan none ('$' :: rest) = scan (some []) rest := rfl

theorem scan_inName (inName : isNameChar c = true) :
    scan (some name) (c :: rest) = scan (some (c :: name)) rest := by
  simp [scan,inName]

theorem scan_doubled : scan (some []) ('$' :: rest) = .doubled :: scan none rest := rfl

theorem scan_closes (closes : ClosesName following) (single : name = [] → following.head? ≠ some '$') :
    scan (some name) following = closeDollar name :: scan none following := by
  cases following with
  | nil => rfl
  | cons c rest =>
    have outside : isNameChar c = false := closes c rfl
    by_cases dollar : c = '$'
    · subst dollar
      have named : name ≠ [] := fun empty => single empty rfl
      simp [scan,outside,named]
    · simp [scan,outside,dollar]

theorem scan_name (opened : List Char) (chars : ∀ c ∈ name, isNameChar c = true) :
    scan (some opened) (name ++ following) = scan (some (name.reverse ++ opened)) following := by
  induction name generalizing opened with
  | nil => rfl
  | cons c rest ih =>
    rw [List.cons_append,scan_inName (chars c List.mem_cons_self)]
    rw [ih _ fun d member => chars d (List.mem_cons_of_mem _ member)]
    simp

theorem scan_hole (named : name ≠ []) (chars : ∀ c ∈ name, isNameChar c = true)
    (closes : ClosesName following) : scan none ('$' :: (name ++ following)) = .hole name :: scan none following := by
  have reversed : name.reverse ++ [] ≠ [] := by simpa using named
  rw [scan_dollar,scan_name [] chars,scan_closes closes fun empty => absurd empty reversed]
  simp [closeDollar,named]

end

-- What has been opened by a dollar is off the text and not yet among the pieces.
def opening : Option (List Char) → List Char
  | none => []
  | some name => '$' :: name.reverse

theorem print_scan (opened : Option (List Char)) (cs : List Char) :
    print (scan opened cs) = opening opened ++ cs := by
  induction cs generalizing opened with
  | nil =>
    cases opened with
    | none => rfl
    | some name => simp [scan,print,print_closeDollar,opening]
  | cons c rest ih =>
    have fresh : print (scan none (c :: rest)) = c :: rest := by
      by_cases dollar : c = '$'
      · subst dollar
        simp [scan_dollar,ih,opening]
      · simp [scan_plain dollar,print_cons,ih,opening,Piece.print]
    cases opened with
    | none => exact fresh
    | some name =>
      by_cases inName : isNameChar c = true
      · simp [scan_inName inName,ih,opening]
      · by_cases doubled : name = [] ∧ c = '$'
        · obtain ⟨rfl,rfl⟩ := doubled
          simp [scan_doubled,print_cons,ih,opening,Piece.print]
        · have closes : ClosesName (c :: rest) := by simpa [ClosesName] using inName
          rw [scan_closes closes (by simpa using doubled),print_cons,print_closeDollar,fresh]
          rfl

theorem closeDollar_normal {name : List Char} {rest : List Piece} (chars : ∀ c ∈ name, isNameChar c = true)
    (closes : ClosesName (print rest)) (single : name = [] → (print rest).head? ≠ some '$') (normal : Normal rest) :
    Normal (closeDollar name :: rest) := by
  unfold closeDollar
  split
  · rename_i empty
    exact .lone closes (single empty) normal
  · rename_i named
    refine .hole ?_ ?_ closes normal
    · simpa using named
    · intro c member
      exact chars c (List.mem_reverse.mp member)

theorem scan_normal (opened : Option (List Char)) (cs : List Char)
    (chars : ∀ name ∈ opened, ∀ c ∈ name, isNameChar c = true) : Normal (scan opened cs) := by
  induction cs generalizing opened with
  | nil =>
    cases opened with
    | none => exact .nil
    | some name => exact closeDollar_normal (chars name rfl) nofun nofun .nil
  | cons c rest ih =>
    have fresh : Normal (scan none (c :: rest)) := by
      by_cases dollar : c = '$'
      · subst dollar
        exact ih (some []) (by simp)
      · rw [scan_plain dollar]
        exact .plain dollar (ih none nofun)
    cases opened with
    | none => exact fresh
    | some name =>
      have known : ∀ d ∈ name, isNameChar d = true := chars name rfl
      by_cases inName : isNameChar c = true
      · rw [scan_inName inName]
        refine ih (some (c :: name)) ?_
        rintro _ ⟨⟩ d member
        cases member with
        | head => exact inName
        | tail _ old => exact known d old
      · by_cases doubled : name = [] ∧ c = '$'
        · obtain ⟨rfl,rfl⟩ := doubled
          exact .doubled (ih none nofun)
        · have closes : ClosesName (c :: rest) := by simpa [ClosesName] using inName
          have single : name = [] → (c :: rest).head? ≠ some '$' := by simpa using doubled
          rw [scan_closes closes single]
          refine closeDollar_normal known ?_ ?_ fresh
          · rw [print_scan]
            exact closes
          · rw [print_scan]
            exact single

theorem scan_print {row : List Piece} (normal : Normal row) : scan none (print row) = row := by
  induction normal with
  | nil => rfl
  | plain visible normal ih =>
    rw [print_cons]
    change scan none (_ :: print _) = _
    rw [scan_plain visible,ih]
  | doubled normal ih =>
    rw [print_cons]
    change scan (some []) ('$' :: print _) = _
    rw [scan_doubled,ih]
  | lone closes single normal ih =>
    rw [print_cons]
    change scan (some []) (print _) = _
    rw [scan_closes closes fun _ => single,ih]
    rfl
  | @hole name rest named chars closes normal ih =>
    rw [print_cons]
    change scan none ('$' :: (name ++ print rest)) = _
    rw [scan_hole named chars closes,ih]

theorem pieces_print (template : String) : print (pieces template) = template.toList :=
  print_scan none template.toList

theorem pieces_normal (template : String) : Normal (pieces template) :=
  scan_normal none template.toList nofun

theorem pieces_of_print {row : List Piece} (normal : Normal row) : pieces (String.ofList (print row)) = row := by
  rw [pieces,String.toList_ofList]
  exact scan_print normal

def Piece.shown (b : Bindings) : Piece → String
  | .plain c => String.singleton c
  | .doubled | .lone => "$"
  | .hole name => (b.get? (String.ofList name)).getD ("$" ++ String.ofList name)

theorem fill_shown (row : List Piece) (b : Bindings) :
    String.ofList (fill row b) = String.join (row.map (Piece.shown b)) := by
  have piece : ∀ p : Piece, Piece.fill b p = (p.shown b).toList := by
    intro p
    cases p with
    | plain c => simp [Piece.fill,Piece.shown]
    | doubled => simp [Piece.fill,Piece.shown]
    | lone => simp [Piece.fill,Piece.shown]
    | hole name =>
      simp only [Piece.fill,Piece.shown]
      cases b.get? (String.ofList name) <;> simp
  rw [← String.toList_inj,String.toList_ofList,String.toList_join,List.flatMap_map,fill]
  exact congrArg (row.flatMap ·) (funext piece)

theorem foldl_note (words seen : List String) :
    words.foldl note seen = seen ++ (words.filter fun word => word ∉ seen).eraseDups := by
  induction words generalizing seen with
  | nil => simp
  | cons word rest ih =>
    rw [List.foldl_cons,ih,note]
    by_cases known : word ∈ seen
    · simp [known]
    · simp only [known,if_false,not_false_eq_true,decide_true,List.filter_cons_of_pos,List.eraseDups_cons,
        List.append_assoc,List.singleton_append,List.filter_filter,List.mem_append,List.mem_singleton]
      congr 4
      funext other
      by_cases same : other = word <;> simp [same,known]

theorem firsts_exact (words : List String) : firsts words = words.eraseDups := by
  rw [firsts,foldl_note,List.nil_append,List.filter_eq_self.mpr (by simp)]

-- In one pass from left to right, each time the longest match.
inductive Replaced (b : Bindings) : List String → List Char → List Char → List String → Prop where
  | done (noted : List String) : Replaced b noted [] [] noted
  | dollar {noted later : List String} {rest text : List Char} (replaced : Replaced b noted rest text later) :
      Replaced b noted ('$' :: '$' :: rest) ('$' :: text) later
  | bound {noted later : List String} {name rest text : List Char} {value : String} (named : name ≠ [])
      (chars : ∀ c ∈ name, isNameChar c = true) (closes : ClosesName rest)
      (known : b.get? (String.ofList name) = some value) (replaced : Replaced b noted rest text later) :
      Replaced b noted ('$' :: (name ++ rest)) (value.toList ++ text) later
  | unbound {noted later : List String} {name rest text : List Char} (named : name ≠ [])
      (chars : ∀ c ∈ name, isNameChar c = true) (closes : ClosesName rest)
      (unknown : b.get? (String.ofList name) = none)
      (replaced : Replaced b (note noted (String.ofList name)) rest text later) :
      Replaced b noted ('$' :: (name ++ rest)) ('$' :: (name ++ text)) later
  | copied {noted later : List String} {c : Char} {rest text : List Char}
      (unmatched : c = '$' → ClosesName rest ∧ rest.head? ≠ some '$') (replaced : Replaced b noted rest text later) :
      Replaced b noted (c :: rest) (c :: text) later

theorem fill_cons (piece : Piece) (rest : List Piece) (b : Bindings) :
    fill (piece :: rest) b = piece.fill b ++ fill rest b :=
  List.flatMap_cons

theorem Normal.replaced {row : List Piece} (normal : Normal row) (b : Bindings) (noted : List String) :
    Replaced b noted (print row) (fill row b) ((unboundNames row b).foldl note noted) := by
  induction normal generalizing noted with
  | nil => exact .done noted
  | plain visible normal ih => exact .copied (fun dollar => absurd dollar visible) (ih noted)
  | doubled normal ih => exact .dollar (ih noted)
  | lone closes single normal ih => exact .copied (fun _ => ⟨closes,single⟩) (ih noted)
  | @hole name rest named chars closes normal ih =>
    rw [print_cons,fill_cons]
    cases known : b.get? (String.ofList name) with
    | some value =>
      simpa [Piece.print,Piece.fill,unboundNames,names,Piece.name?,known] using
        Replaced.bound named chars closes known (ih noted)
    | none =>
      simpa [Piece.print,Piece.fill,unboundNames,names,Piece.name?,known] using
        Replaced.unbound named chars closes known (ih _)

theorem Replaced.scanned {b : Bindings} {noted later : List String} {template text : List Char}
    (replaced : Replaced b noted template text later) :
    fill (scan none template) b = text ∧ (unboundNames (scan none template) b).foldl note noted = later := by
  induction replaced with
  | done noted => exact ⟨rfl,rfl⟩
  | dollar replaced ih =>
    obtain ⟨filled,free⟩ := ih
    refine ⟨?_,free⟩
    rw [scan_dollar,scan_doubled,fill_cons,filled]
    rfl
  | bound named chars closes known replaced ih =>
    obtain ⟨filled,free⟩ := ih
    rw [scan_hole named chars closes,fill_cons,filled]
    simp [Piece.fill,known,← free,unboundNames,names,Piece.name?]
  | unbound named chars closes unknown replaced ih =>
    obtain ⟨filled,free⟩ := ih
    rw [scan_hole named chars closes,fill_cons,filled]
    simp [Piece.fill,unknown,← free,unboundNames,names,Piece.name?]
  | @copied noted later c rest text unmatched replaced ih =>
    obtain ⟨filled,free⟩ := ih
    by_cases dollar : c = '$'
    · subst dollar
      obtain ⟨closes,single⟩ := unmatched rfl
      rw [scan_dollar,scan_closes closes fun _ => single,fill_cons,filled]
      exact ⟨rfl,free⟩
    · rw [scan_plain dollar,fill_cons,filled]
      exact ⟨rfl,free⟩

theorem replaced_exact (template : String) (b : Bindings) (text : List Char) (free : List String) :
    Replaced b [] template.toList text free ↔ resolve template b = ⟨String.ofList text,free⟩ := by
  constructor
  · intro replaced
    obtain ⟨filled,noted⟩ := replaced.scanned
    rw [resolve,pieces,filled,firsts,noted]
  · intro outcome
    have replaced := (pieces_normal template).replaced b []
    rw [pieces_print] at replaced
    obtain ⟨written,noted⟩ := Resolution.mk.inj outcome
    rw [← String.ofList_injective written,← noted]
    exact replaced

def doubleDollars (text : String) : String :=
  String.ofList (text.toList.flatMap fun c => if c = '$' then ['$','$'] else [c])

def literalPiece (c : Char) : Piece := if c = '$' then .doubled else .plain c

theorem literal_row (cs : List Char) :
    Normal (cs.map literalPiece) ∧
      print (cs.map literalPiece) = cs.flatMap (fun c => if c = '$' then ['$','$'] else [c]) ∧
      names (cs.map literalPiece) = [] ∧ ∀ b, fill (cs.map literalPiece) b = cs := by
  induction cs with
  | nil => exact ⟨.nil,rfl,rfl,fun _ => rfl⟩
  | cons c rest ih =>
    obtain ⟨normal,printed,unnamed,filled⟩ := ih
    simp only [names] at unnamed
    simp only [fill] at filled
    by_cases dollar : c = '$'
    · subst dollar
      refine ⟨.doubled normal,?_,?_,?_⟩
      · simpa [literalPiece,print_cons,Piece.print] using printed
      · simpa [literalPiece,names,Piece.name?] using unnamed
      · intro b
        simpa [literalPiece,fill,Piece.fill] using filled b
    · simp only [List.map_cons,literalPiece,dollar,if_false]
      refine ⟨.plain dollar normal,?_,?_,?_⟩
      · simpa [print_cons,Piece.print,dollar] using printed
      · simpa [names,Piece.name?] using unnamed
      · intro b
        simpa [fill,Piece.fill] using filled b

-- Every template is written in exactly one way, and what it resolves to can be
-- read off that row. A value is put in whole, so it is no part of the grammar.
theorem grammar_exact :
    (∀ template : String, ∃! row, Normal row ∧ print row = template.toList) ∧
    (∀ row b, Normal row →
      let outcome := resolve (String.ofList (print row)) b
      outcome.text = String.join (row.map (Piece.shown b)) ∧
      (outcome.isResolved = true ↔ ∀ name ∈ names row, (b.get? name).isSome = true) ∧
      outcome.free = ((names row).filter fun name => (b.get? name).isNone).eraseDups) ∧
    (∀ template b text free,
      Replaced b [] template.toList text free ↔ resolve template b = ⟨String.ofList text,free⟩) ∧
    ∀ text b, resolve (doubleDollars text) b = ⟨text,[]⟩ := by
  refine ⟨?_,?_,replaced_exact,?_⟩
  · intro template
    refine ⟨pieces template,⟨pieces_normal template,pieces_print template⟩,?_⟩
    rintro row ⟨normal,printed⟩
    rw [pieces,← printed,scan_print normal]
  · intro row b normal
    have read := pieces_of_print normal
    refine ⟨?_,?_,?_⟩
    · rw [resolve,read,fill_shown]
    · rw [resolve_isResolved,read]
    · rw [resolve,read,firsts_exact]
      rfl
  · intro text b
    obtain ⟨normal,printed,unnamed,filled⟩ := literal_row text.toList
    rw [doubleDollars,← printed,resolve,pieces_of_print normal,filled,unboundNames,unnamed,String.ofList_toList]
    rfl

def knottyRow : List Piece := [
  .doubled,.plain '_',.plain 's',.doubled,.hole ['l','h','s'],.hole ['_','s','e','l','f'],.plain ' ',
  .hole ['l','h','s'],.lone]

theorem grammar_exact_knotty :
    Normal knottyRow ∧ print knottyRow = "$$_s$$$lhs$_self $lhs$".toList ∧
    resolve "$$_s$$$lhs$_self $lhs$" (verifierBindings .type) = ⟨"$_s$$lhstype $lhs$",["lhs"]⟩ ∧
    resolve (doubleDollars "$_self$") (verifierBindings .type) = ⟨"$_self$",[]⟩ := by
  have row : pieces "$$_s$$$lhs$_self $lhs$" = knottyRow := by decide
  have normal : Normal knottyRow := row ▸ pieces_normal _
  have printed : print knottyRow = "$$_s$$$lhs$_self $lhs$".toList := row ▸ pieces_print _
  obtain ⟨_,resolved,_,literal⟩ := grammar_exact
  obtain ⟨text,_,free⟩ := resolved knottyRow (verifierBindings .type) normal
  rw [printed,String.ofList_toList] at text free
  have shown : String.join (knottyRow.map (Piece.shown (verifierBindings .type))) = "$_s$$lhstype $lhs$" := by decide
  have unbound : ((names knottyRow).filter fun name => ((verifierBindings .type).get? name).isNone).eraseDups = ["lhs"] := by
    decide
  exact ⟨normal,printed,congrArg₂ Resolution.mk (text.trans shown) (free.trans unbound),literal _ _⟩

end SharedVerifiers.Condition
