namespace SharedVerifiers.Yaml

-- A place in a text. The index counts bytes, the column characters.
structure Mark where
  index : Nat := 0
  line : Nat := 0
  column : Nat := 0
deriving DecidableEq,Repr

-- Reading never counts: what is left of a text knows its own place.
structure Spot where
  char : Char
  mark : Mark
deriving DecidableEq,Repr

def isBlank (c : Char) : Bool := c = ' ' || c = '\t'

def isBreak (c : Char) : Bool :=
  c = '\n' || c = '\r' || c = Char.ofNat 0x85 || c = Char.ofNat 0x2028 || c = Char.ofNat 0x2029

def isWordChar (c : Char) : Bool := c.isAlphanum || c = '_' || c = '-'

def isAllowed (c : Char) : Bool :=
  let n := c.toNat
  n = 9 || n = 10 || n = 13 || (32 ≤ n && n ≤ 126) || n = 0x85 || (0xA0 ≤ n && n ≤ 0xD7FF) ||
  (0xE000 ≤ n && n ≤ 0xFFFD) || 0x10000 ≤ n

def byteOrderMark : Char := Char.ofNat 0xFEFF

def blockBytes : Nat := 16384

-- `block` is the block so far, in reverse.
def legible (block : List Char) (size : Nat) : List Char → List Char × Bool
  | [] => (block.reverse,true)
  | c :: rest =>
    let fits := size + c.utf8Size ≤ blockBytes
    if !isAllowed c then (if fits then [] else block.reverse,false)
    else if fits then legible (c :: block) (size + c.utf8Size) rest
    else
      let (more,whole) := legible [c] c.utf8Size rest
      (block.reverse ++ more,whole)

def Mark.behind (m : Mark) (c : Char) (rest : List Char) : Mark :=
  let index := m.index + c.utf8Size
  if isBreak c && !(c = '\r' && rest.head? = some '\n') then ⟨index,m.line + 1,0⟩
  else ⟨index,m.line,m.column + 1⟩

def spots (m : Mark) : List Char → List Spot
  | [] => []
  | c :: rest => ⟨c,m⟩ :: spots (m.behind c rest) rest

def endMark (m : Mark) : List Char → Mark
  | [] => m
  | c :: rest => endMark (m.behind c rest) rest

def atChar (c : Char) : List Spot → Bool
  | s :: _ => s.char = c
  | [] => false

def atBlank : List Spot → Bool
  | s :: _ => isBlank s.char
  | [] => false

def atBreakOrEnd : List Spot → Bool
  | s :: _ => isBreak s.char
  | [] => true

def atSpaceOrEnd (text : List Spot) : Bool := atBlank text || atBreakOrEnd text

def atDocumentMark (c : Char) : List Spot → Bool
  | s :: t :: u :: rest => s.mark.column = 0 && s.char = c && t.char = c && u.char = c && atSpaceOrEnd rest
  | _ => false

def atAnyDocumentMark (text : List Spot) : Bool := atDocumentMark '-' text || atDocumentMark '.' text

def normalBreak (c : Char) : Char :=
  if c = Char.ofNat 0x2028 || c = Char.ofNat 0x2029 then c else '\n'

def skipBlanks (text : List Spot) : List Spot := text.dropWhile fun s => isBlank s.char
def skipLine (text : List Spot) : List Spot := text.dropWhile fun s => !isBreak s.char

def skipBreak : List Spot → List Spot
  | s :: t :: rest => if s.char = '\r' && t.char = '\n' then rest else if isBreak s.char then t :: rest else s :: t :: rest
  | [s] => if isBreak s.char then [] else [s]
  | [] => []

def endOfLine (text : List Spot) : Option (List Spot) :=
  let text := skipBlanks text
  let text := if atChar '#' text then skipLine text else text
  if atBreakOrEnd text then some (skipBreak text) else none

end SharedVerifiers.Yaml
