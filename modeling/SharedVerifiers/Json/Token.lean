import SharedVerifiers.Document.Node
namespace SharedVerifiers.Json
open Document

-- A text with half a surrogate pair and a number beyond all magnitudes are
-- well formed but have no value. Nothing follows `broken`.
inductive Token where
  | openMap | closeMap | openSeq | closeSeq | comma | colon
  | null
  | bool (value : Bool)
  | number (value : Option Number)
  | text (value : Option String)
  | broken
deriving DecidableEq,Repr

structure Numeral where
  negative : Bool
  whole : List Char
  places : List Char := []
  exponentNegative : Bool := false
  exponent : List Char := []
  isWhole : Bool := true
deriving Repr

def digit (c : Char) : Nat := c.toNat - 48
def digitsValue (digits : List Char) : Nat := digits.foldl (fun n c => 10 * n + digit c) 0

-- Digits are gathered while the significand stays below the bound of a word;
-- those behind the first that does not fit count as zeros.
def gather : Nat → List Char → Nat × List Char
  | n,[] => (n,[])
  | n,c :: rest => if 10 * n + digit c < wordBound then gather (10 * n + digit c) rest else (n,c :: rest)

-- Powers of ten up to the 308th exist as magnitudes; a larger exponent is
-- taken in steps. Each step rounds.
def applyExponent (fuel : Nat) (m : Decimal.Magnitude) (exponent : Int) : Option Decimal.Magnitude :=
  match fuel with
  | 0 => none
  | fuel + 1 =>
    if exponent.natAbs ≤ 308 then do
      let power ← Decimal.ofDecimal 1 exponent.natAbs
      if 0 ≤ exponent then m.times power else m.over power
    else if m.mantissa = 0 then some m
    else if 0 ≤ exponent then none
    else do
      let power ← Decimal.ofDecimal 1 308
      applyExponent fuel (← m.over power) (exponent + 308)

namespace Numeral

def value (n : Numeral) : Option Number :=
  let whole := digitsValue n.whole.reverse
  if n.isWhole && !n.negative && whole < wordBound then some (.natural whole)
  else if n.isWhole && n.negative && 0 < whole && whole ≤ signedBound then some (.signed (-whole))
  else
    let (significand,left) := gather 0 n.whole.reverse
    let (significand,placesLeft) := gather significand n.places.reverse
    let shift : Int := (left.length : Int) - ((n.places.length : Int) - (placesLeft.length : Int))
    let power := digitsValue n.exponent.reverse
    let exponent : Int := if n.exponentNegative then shift - power else shift + power
    if significand = 0 then some (.fraction (.finite n.negative ⟨0,Decimal.leastExponent⟩))
    else do
      let m ← Decimal.ofNat significand
      let m ← applyExponent (exponent.natAbs / 308 + 2) m exponent
      return .fraction (.finite n.negative m)

end Numeral

inductive NumberState where
  | sign | zero | whole | point | places | exponentMark | exponentSign | exponent
deriving DecidableEq,Repr

def NumberState.mayEnd : NumberState → Bool
  | .zero | .whole | .places | .exponent => true
  | _ => false

def NumberState.next? (c : Char) : NumberState → Option NumberState
  | .sign => if c = '0' then some .zero else if c.isDigit then some .whole else none
  | .zero => if c = '.' then some .point else if c = 'e' || c = 'E' then some .exponentMark else none
  | .whole =>
    if c.isDigit then some .whole
    else if c = '.' then some .point else if c = 'e' || c = 'E' then some .exponentMark else none
  | .point => if c.isDigit then some .places else none
  | .places => if c.isDigit then some .places else if c = 'e' || c = 'E' then some .exponentMark else none
  | .exponentMark =>
    if c = '+' || c = '-' then some .exponentSign else if c.isDigit then some .exponent else none
  | .exponentSign => if c.isDigit then some .exponent else none
  | .exponent => if c.isDigit then some .exponent else none

def Numeral.add (n : Numeral) (c : Char) : NumberState → Numeral
  | .zero | .whole => {n with whole := c :: n.whole}
  | .places => {n with places := c :: n.places}
  | .point | .exponentMark => {n with isWhole := false}
  | .exponentSign => {n with exponentNegative := c = '-'}
  | .exponent => {n with exponent := c :: n.exponent}
  | .sign => n

structure Quote where
  done : List Char := []
  whole : Bool := true
  high : Option Nat := none
deriving Repr

namespace Quote

def settle (q : Quote) : Quote := if q.high.isSome then {q with whole := false,high := none} else q
def add (q : Quote) (c : Char) : Quote := {q.settle with done := c :: q.done}

def addUnit (q : Quote) (unit : Nat) : Quote :=
  match q.high with
  | some high =>
    if 0xDC00 ≤ unit ∧ unit ≤ 0xDFFF then
      {q with high := none,done := Char.ofNat (0x10000 + (high - 0xD800) * 0x400 + (unit - 0xDC00)) :: q.done}
    else if 0xD800 ≤ unit ∧ unit ≤ 0xDBFF then {q with whole := false,high := some unit}
    else {q with whole := false,high := none,done := Char.ofNat unit :: q.done}
  | none =>
    if 0xD800 ≤ unit ∧ unit ≤ 0xDBFF then {q with high := some unit}
    else if 0xDC00 ≤ unit ∧ unit ≤ 0xDFFF then {q with whole := false}
    else {q with done := Char.ofNat unit :: q.done}

def token (q : Quote) : Token :=
  let q := q.settle
  .text (if q.whole then some (String.ofList q.done.reverse) else none)

end Quote

def escapeOf (c : Char) : Option Char :=
  match c with
  | '"' => some '"'
  | '\\' => some '\\'
  | '/' => some '/'
  | 'b' => some (Char.ofNat 8)
  | 'f' => some (Char.ofNat 12)
  | 'n' => some (Char.ofNat 10)
  | 'r' => some (Char.ofNat 13)
  | 't' => some (Char.ofNat 9)
  | _ => none

def hexValue? (c : Char) : Option Nat :=
  if '0' ≤ c ∧ c ≤ '9' then some (c.toNat - 48)
  else if 'a' ≤ c ∧ c ≤ 'f' then some (c.toNat - 87)
  else if 'A' ≤ c ∧ c ≤ 'F' then some (c.toNat - 55)
  else none

inductive Mode where
  | between
  | word (left : List Char) (token : Token)
  | number (state : NumberState) (n : Numeral)
  | text (q : Quote)
  | escape (q : Quote)
  | unit (q : Quote) (left value : Nat)

def first (c : Char) : Option (List Token × Mode) :=
  match c with
  | ' ' | '\n' | '\t' | '\r' => some ([],.between)
  | '[' => some ([.openSeq],.between)
  | ']' => some ([.closeSeq],.between)
  | ',' => some ([.comma],.between)
  | ':' => some ([.colon],.between)
  | '"' => some ([],.text {})
  | 'n' => some ([],.word ['u','l','l'] .null)
  | 't' => some ([],.word ['r','u','e'] (.bool true))
  | 'f' => some ([],.word ['a','l','s','e'] (.bool false))
  | '-' => some ([],.number .sign ⟨true,[],[],false,[],true⟩)
  | '0' => some ([],.number .zero ⟨false,['0'],[],false,[],true⟩)
  | c =>
    if c = Char.ofNat 0x7B then some ([.openMap],.between)
    else if c = Char.ofNat 0x7D then some ([.closeMap],.between)
    else if c.isDigit then some ([],.number .whole ⟨false,[c],[],false,[],true⟩)
    else none

def lex : Mode → List Char → List Token
  | .between,[] => []
  | .number state n,[] => if state.mayEnd then [.number n.value] else [.broken]
  | _,[] => [.broken]
  | .between,c :: rest => match first c with
    | some (tokens,mode) => tokens ++ lex mode rest
    | none => [.broken]
  | .word left token,c :: rest => match left with
    | [] => [.broken]
    | [final] => if c = final then token :: lex .between rest else [.broken]
    | next :: left => if c = next then lex (.word left token) rest else [.broken]
  | .number state n,c :: rest => match state.next? c with
    | some state => lex (.number state (n.add c state)) rest
    | none =>
      if !state.mayEnd || (state = .zero && c.isDigit) then [.broken]
      else .number n.value :: match first c with
        | some (tokens,mode) => tokens ++ lex mode rest
        | none => [.broken]
  | .text q,c :: rest =>
    if c = '"' then q.token :: lex .between rest
    else if c = '\\' then lex (.escape q) rest
    else if c.toNat < 32 then [.broken]
    else lex (.text (q.add c)) rest
  | .escape q,c :: rest =>
    if c = 'u' then lex (.unit q 4 0) rest
    else match escapeOf c with
      | some c => lex (.text (q.add c)) rest
      | none => [.broken]
  | .unit q left value,c :: rest => match hexValue? c with
    | none => [.broken]
    | some n =>
      if left ≤ 1 then lex (.text (q.addUnit (16 * value + n))) rest
      else lex (.unit q (left - 1) (16 * value + n)) rest

def tokens (text : String) : List Token := lex .between text.toList

end SharedVerifiers.Json
