namespace SharedVerifiers.Condition

-- ASCII only: any other character after a dollar ends the name.
def isNameChar (c : Char) : Bool := c.isAlphanum || c == '_'

-- A template is read as a row of pieces. A doubled dollar stands for one
-- dollar; a dollar with no name and no second dollar behind it stands for itself.
inductive Piece where
  | plain (c : Char)
  | doubled
  | lone
  | hole (name : List Char)
deriving DecidableEq,Repr

def Piece.print : Piece → List Char
  | .plain c => [c]
  | .doubled => ['$','$']
  | .lone => ['$']
  | .hole name => '$' :: name

def print (row : List Piece) : List Char := row.flatMap Piece.print

def closeDollar (name : List Char) : Piece := if name = [] then .lone else .hole name.reverse

-- `opened` is the name read since a dollar, in reverse, while one is being read.
def scan (opened : Option (List Char)) : List Char → List Piece
  | [] => match opened with
    | none => []
    | some name => [closeDollar name]
  | c :: rest => match opened with
    | none => if c = '$' then scan (some []) rest else .plain c :: scan none rest
    | some name =>
      if isNameChar c then scan (some (c :: name)) rest
      else if c = '$' then
        if name = [] then .doubled :: scan none rest
        else closeDollar name :: scan (some []) rest
      else closeDollar name :: .plain c :: scan none rest

def pieces (template : String) : List Piece := scan none template.toList

def Piece.name? : Piece → Option String
  | .hole name => some (String.ofList name)
  | _ => none

def names (row : List Piece) : List String := row.filterMap Piece.name?

-- Values for placeholder names; the binding made last is the one that holds.
structure Bindings where
  pairs : List (String × String) := []
deriving Repr

namespace Bindings
def empty : Bindings := {}
def bind (b : Bindings) (name value : String) : Bindings := ⟨(name,value) :: b.pairs⟩
def get? (b : Bindings) (name : String) : Option String := b.pairs.lookup name

theorem get_empty (name : String) : empty.get? name = none := rfl
theorem get_bind (b : Bindings) (name value asked : String) :
    (b.bind name value).get? asked = if asked = name then some value else b.get? asked := by
  unfold bind get?
  rw [List.lookup_cons]
  by_cases same : asked = name
  · simp [same]
  · simp [same,beq_false_of_ne same]
end Bindings

def selfName : String := "_self"
def opName : String := "_op"
def builderName : String := "_builder"

def Piece.fill (b : Bindings) : Piece → List Char
  | .plain c => [c]
  | .doubled => ['$']
  | .lone => ['$']
  | .hole name => match b.get? (String.ofList name) with
    | some value => value.toList
    | none => '$' :: name

def note (seen : List String) (name : String) : List String :=
  if name ∈ seen then seen else seen ++ [name]

def firsts (words : List String) : List String := words.foldl note []

structure Resolution where
  text : String
  free : List String
deriving DecidableEq,Repr

def Resolution.isResolved (r : Resolution) : Bool := r.free.isEmpty

def unboundNames (row : List Piece) (b : Bindings) : List String :=
  (names row).filter fun name => (b.get? name).isNone

def fill (row : List Piece) (b : Bindings) : List Char := row.flatMap (Piece.fill b)

def resolve (template : String) (b : Bindings) : Resolution :=
  ⟨String.ofList (fill (pieces template) b),firsts (unboundNames (pieces template) b)⟩

end SharedVerifiers.Condition
