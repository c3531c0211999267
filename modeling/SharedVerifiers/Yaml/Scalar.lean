import SharedVerifiers.Yaml.Text
namespace SharedVerifiers.Yaml

inductive Gap where
  | none
  | blanks (done : List Char)
  | lines (first : Option Char) (more : List Char)
deriving DecidableEq,Repr

namespace Gap

def fold : Gap → List Char
  | .none => []
  | .blanks done => done
  | .lines Option.none more => more
  | .lines (some first) more =>
    if first = '\n' then (if more = [] then [' '] else more) else more ++ [first]

def hasBreak : Gap → Bool
  | .lines _ _ => true
  | _ => false

def addBlank (g : Gap) (c : Char) : Gap :=
  match g with
  | .none => .blanks [c]
  | .blanks done => .blanks (c :: done)
  | .lines first more => .lines first more

def addBreak (g : Gap) (c : Char) : Gap :=
  match g with
  | .lines first more => .lines first (normalBreak c :: more)
  | _ => .lines (some (normalBreak c)) []

end Gap

def opensBreak (c : Char) (rest : List Spot) : Bool := c = '\r' && atChar '\n' rest

def endsPlainInFlow (c : Char) : Bool :=
  c = ',' || c = '[' || c = ']' || c = Char.ofNat 0x7B || c = Char.ofNat 0x7D

def endsPlain (flow : Bool) (c : Char) (rest : List Spot) : Bool :=
  (c = ':' && atSpaceOrEnd rest) || (flow && endsPlainInFlow c)

def strayColon (flow : Bool) (c : Char) (rest : List Spot) : Bool :=
  flow && c = ':' && match rest with
    | s :: _ => endsPlainInFlow s.char || s.char = '?'
    | [] => false

-- `least` is the least column of its further lines.
def plain (flow : Bool) (least : Int) (done : List Char) (gap : Gap) :
    List Spot → Option (List Char × Bool × List Spot)
  | [] => some (done.reverse,gap.hasBreak,[])
  | s :: rest =>
    if isBlank s.char then
      if gap.hasBreak && s.mark.column < least && s.char = '\t' then none
      else plain flow least done (gap.addBlank s.char) rest
    else if isBreak s.char then
      plain flow least done (if opensBreak s.char rest then gap else gap.addBreak s.char) rest
    else if gap ≠ .none && ((!flow && s.mark.column < least) || atAnyDocumentMark (s :: rest) || s.char = '#') then
      some (done.reverse,gap.hasBreak,s :: rest)
    else if strayColon flow s.char rest then none
    else if endsPlain flow s.char rest then some (done.reverse,gap.hasBreak,s :: rest)
    else plain flow least (s.char :: (gap.fold ++ done)) .none rest

def single (done : List Char) (gap : Gap) : List Spot → Option (List Char × List Spot)
  | [] => none
  | s :: rest =>
    if atAnyDocumentMark (s :: rest) then none
    else if isBlank s.char then single done (gap.addBlank s.char) rest
    else if isBreak s.char then
      single done (if opensBreak s.char rest then gap else gap.addBreak s.char) rest
    else
      let done := gap.fold ++ done
      if s.char = '\'' then
        match rest with
        | t :: after => if t.char = '\'' then single ('\'' :: done) .none after else some (done.reverse,rest)
        | [] => some (done.reverse,rest)
      else single (s.char :: done) .none rest

def escaped (c : Char) : Option Char :=
  match c with
  | '0' => some (Char.ofNat 0)
  | 'a' => some (Char.ofNat 7)
  | 'b' => some (Char.ofNat 8)
  | 't' | '\t' => some (Char.ofNat 9)
  | 'n' => some (Char.ofNat 10)
  | 'v' => some (Char.ofNat 11)
  | 'f' => some (Char.ofNat 12)
  | 'r' => some (Char.ofNat 13)
  | 'e' => some (Char.ofNat 27)
  | ' ' => some ' '
  | '"' => some '"'
  | '/' => some '/'
  | '\\' => some '\\'
  | 'N' => some (Char.ofNat 0x85)
  | '_' => some (Char.ofNat 0xA0)
  | 'L' => some (Char.ofNat 0x2028)
  | 'P' => some (Char.ofNat 0x2029)
  | _ => none

def escapeWidth (c : Char) : Nat :=
  match c with
  | 'x' => 2
  | 'u' => 4
  | 'U' => 8
  | _ => 0

def hexValue? (c : Char) : Option Nat :=
  if c.isDigit then some (c.toNat - 48)
  else if 'a' ≤ c ∧ c ≤ 'f' then some (c.toNat - 87)
  else if 'A' ≤ c ∧ c ≤ 'F' then some (c.toNat - 55)
  else none

def scalarValue? (n : Nat) : Option Char := if n.isValidChar then some (Char.ofNat n) else none

inductive Quoting where
  | text
  | escape
  | digits (left value : Nat)
deriving DecidableEq,Repr

def double (quoting : Quoting) (done : List Char) (gap : Gap) : List Spot → Option (List Char × List Spot)
  | [] => none
  | s :: rest =>
    match quoting with
    | .text =>
      if atAnyDocumentMark (s :: rest) then none
      else if isBlank s.char then double .text done (gap.addBlank s.char) rest
      else if isBreak s.char then
        double .text done (if opensBreak s.char rest then gap else gap.addBreak s.char) rest
      else
        let done := gap.fold ++ done
        if s.char = '"' then some (done.reverse,rest)
        else if s.char = '\\' then double .escape done .none rest
        else double .text (s.char :: done) .none rest
    | .escape =>
      if opensBreak s.char rest then double .escape done .none rest
      else if isBreak s.char then double .text done (.lines Option.none []) rest
      else match escapeWidth s.char with
        | 0 => match escaped s.char with
          | some c => double .text (c :: done) .none rest
          | none => none
        | width => double (.digits width 0) done .none rest
    | .digits left value => match hexValue? s.char with
      | none => none
      | some n =>
        let value := 16 * value + n
        if 1 < left then double (.digits (left - 1) value) done .none rest
        else match scalarValue? value with
          | some c => double .text (c :: done) .none rest
          | none => none

inductive Chomp where
  | strip | clip | keep
deriving DecidableEq,Repr

-- Without an indentation yet all spaces belong to it.
def blockBreaks (indent : Option Nat) (column widest : Nat) (breaks : List Char) :
    List Spot → Option (Nat × List Char × Nat × List Spot)
  | [] => some (max widest column,breaks,column,[])
  | s :: rest =>
    let inside := match indent with
      | some n => column < n
      | none => true
    if inside && s.char = ' ' then blockBreaks indent (column + 1) widest breaks rest
    else if inside && s.char = '\t' then none
    else if opensBreak s.char rest then blockBreaks indent column (max widest column) breaks rest
    else if isBreak s.char then
      blockBreaks indent 0 (max widest column) (normalBreak s.char :: breaks) rest
    else some (max widest column,breaks,column,s :: rest)

structure Lines where
  done : List Char := []
  last : Option Char := none
  empty : List Char := []
  blank : Bool := false
deriving Repr

def Lines.join (l : Lines) (folded nextBlank : Bool) : Lines :=
  let between :=
    if folded && l.last = some '\n' && !l.blank && !nextBlank then
      (if l.empty = [] then [' '] else l.empty)
    else l.empty ++ l.last.toList
  {done := between ++ l.done,blank := nextBlank}

def Lines.finish (l : Lines) (chomp : Chomp) : List Char :=
  (match chomp with
    | .strip => l.done
    | .clip => l.last.toList ++ l.done
    | .keep => l.empty ++ l.last.toList ++ l.done).reverse

-- `column` is the place in the indentation of a line, or nothing within a line.
def blockLines (folded : Bool) (indent : Nat) (column : Option Nat) (l : Lines) :
    List Spot → Option (Lines × List Spot)
  | [] => some (l,[])
  | s :: rest =>
    match column with
    | none =>
      if opensBreak s.char rest then blockLines folded indent none l rest
      else if isBreak s.char then blockLines folded indent (some 0) {l with last := some (normalBreak s.char)} rest
      else blockLines folded indent none {l with done := s.char :: l.done} rest
    | some column =>
      if column < indent && s.char = ' ' then blockLines folded indent (some (column + 1)) l rest
      else if column < indent && s.char = '\t' then none
      else if opensBreak s.char rest then blockLines folded indent (some column) l rest
      else if isBreak s.char then
        blockLines folded indent (some 0) {l with empty := normalBreak s.char :: l.empty} rest
      else if column = indent then
        let l := l.join folded (isBlank s.char)
        blockLines folded indent none {l with done := s.char :: l.done} rest
      else some (l,s :: rest)

def chompOf (c : Char) : Option Chomp :=
  if c = '+' then some .keep else if c = '-' then some .strip else none

def blockHeader (text : List Spot) : Option (Chomp × Option Nat × List Spot) :=
  let width (s : Spot) : Option Nat := if s.char.isDigit then some (s.char.toNat - 48) else none
  match text with
  | [] => some (.clip,none,[])
  | s :: rest => match chompOf s.char,width s with
    | some chomp,_ => match rest with
      | [] => some (chomp,none,[])
      | t :: after => match width t with
        | some 0 => none
        | some n => some (chomp,some n,after)
        | none => some (chomp,none,rest)
    | none,some 0 => none
    | none,some n => match rest with
      | [] => some (.clip,some n,[])
      | t :: after => match chompOf t.char with
        | some chomp => some (chomp,some n,after)
        | none => some (.clip,some n,rest)
    | none,none => some (.clip,none,text)

def block (folded : Bool) (parent : Int) (text : List Spot) : Option (List Char × List Spot) := do
  let (chomp,increment,text) ← blockHeader text
  let text ← endOfLine text
  let given := increment.map fun n => if 0 ≤ parent then parent.toNat + n else n
  let (widest,breaks,column,text) ← blockBreaks given 0 0 [] text
  let indent := given.getD (max widest (max (parent + 1).toNat 1))
  if column = indent && !text.isEmpty then
    let (l,text) ← blockLines folded indent (some column) {empty := breaks} text
    return (l.finish chomp,text)
  else return (Lines.finish {empty := breaks} chomp,text)

end SharedVerifiers.Yaml
