namespace SharedVerifiers.Decimal

-- A binary fraction with 53 significant bits: `mantissa * 2 ^ exponent`, the
-- exponent at least -1074. A mantissa below `2 ^ 52` has the least exponent.
structure Magnitude where
  mantissa : Nat
  exponent : Int
deriving DecidableEq,Repr

inductive Binary where
  | finite (negative : Bool) (m : Magnitude)
  | infinite (negative : Bool)
  | undefined
deriving DecidableEq,Repr

def scale (base : Nat) (power : Int) (num den : Nat) : Nat × Nat :=
  if 0 ≤ power then (num * Nat.pow base power.toNat,den) else (num,den * Nat.pow base (-power).toNat)

inductive Tie where
  | even | up
deriving DecidableEq,Repr

def nearest (tie : Tie) (num den : Nat) : Nat :=
  let q := num / den
  let r := num % den
  if den < 2 * r ∨ (2 * r = den ∧ (tie = .up ∨ q % 2 = 1)) then q + 1 else q

-- Mantissas with all 53 digits lie between these: `2 ^ 52` and `2 ^ 53`.
def leastFull : Nat := 4503599627370496
def mantissaBound : Nat := 9007199254740992

def leastExponent : Int := -1074
def greatestExponent : Int := 971

def round (num den : Nat) : Option Magnitude :=
  if num = 0 then some ⟨0,leastExponent⟩
  else
    let guess := max leastExponent ((Nat.log2 num : Int) - (Nat.log2 den : Int) - 53)
    let (n,d) := scale 2 (-guess) num den
    let exponent := if mantissaBound ≤ n / d then guess + 1 else guess
    let (n,d) := scale 2 (-exponent) num den
    let mantissa := nearest .even n d
    let (mantissa,exponent) := if mantissa = mantissaBound then (leastFull,exponent + 1) else (mantissa,exponent)
    if greatestExponent < exponent then none else some ⟨mantissa,exponent⟩

def Magnitude.fraction (m : Magnitude) : Nat × Nat := scale 2 m.exponent m.mantissa 1

def Magnitude.times (left right : Magnitude) : Option Magnitude :=
  let (a,b) := left.fraction
  let (c,d) := right.fraction
  round (a * c) (b * d)

def Magnitude.over (left right : Magnitude) : Option Magnitude :=
  let (a,b) := left.fraction
  let (c,d) := right.fraction
  round (a * d) (b * c)

def ofNat (n : Nat) : Option Magnitude := round n 1

-- A decimal `digits * 10 ^ exponent`. What is certainly beyond all magnitudes,
-- or below the half of the least one, is told from the exponent alone.
def ofDecimal (digits : Nat) (exponent : Int) : Option Magnitude :=
  if digits = 0 || exponent < -(Nat.log2 digits : Int) - 400 then some ⟨0,leastExponent⟩
  else if 400 < exponent then none
  else
    let (n,d) := scale 10 exponent digits 1
    round n d

structure Digits where
  digits : Nat
  exponent : Int
deriving DecidableEq,Repr

-- Whether a decimal rounds to the magnitude. The ends of the interval belong
-- to it when the mantissa is even; below a power of two it is half as long.
def Magnitude.covers (m : Magnitude) (d : Digits) : Bool :=
  let (n,den) := scale 10 d.exponent d.digits 1
  let (lowNum,lowDen) :=
    if m.mantissa = leastFull ∧ leastExponent < m.exponent then
      scale 2 (m.exponent - 2) (4 * m.mantissa - 1) 1
    else scale 2 (m.exponent - 1) (2 * m.mantissa - 1) 1
  let (highNum,highDen) := scale 2 (m.exponent - 1) (2 * m.mantissa + 1) 1
  if m.mantissa % 2 = 0 then lowNum * den ≤ n * lowDen ∧ n * highDen ≤ highNum * den
  else lowNum * den < n * lowDen ∧ n * highDen < highNum * den

def Magnitude.leading (m : Magnitude) : Int :=
  let (n,d) := m.fraction
  if d ≤ n then (Nat.toDigits 10 (n / d)).length - 1
  else
    -- The quotient `d / n` rounded up has one digit more than the zeros in front.
    -((Nat.toDigits 10 ((d - 1) / n)).length : Int)

def Magnitude.onGrid (m : Magnitude) (tie : Tie) (count : Nat) : Option Digits :=
  let exponent := m.leading - ((count : Int) - 1)
  let (num,den) := m.fraction
  let (n,d) := scale 10 (-exponent) num den
  let low : Digits := ⟨n / d,exponent⟩
  let high : Digits := ⟨n / d + 1,exponent⟩
  let near := if nearest tie n d = n / d then low else high
  let far := if nearest tie n d = n / d then high else low
  if m.covers near then some near else if m.covers far then some far else none

def dropZeros (fuel : Nat) (d : Digits) : Digits :=
  match fuel with
  | 0 => d
  | fuel + 1 => if d.digits % 10 = 0 ∧ d.digits ≠ 0 then dropZeros fuel ⟨d.digits / 10,d.exponent + 1⟩ else d

def Magnitude.shortest (m : Magnitude) (tie : Tie) : Digits :=
  if m.mantissa = 0 then ⟨0,0⟩
  else
    let found := (List.range 17).findSome? fun count => m.onGrid tie (count + 1)
    dropZeros 20 (found.getD ⟨m.mantissa,0⟩)

end SharedVerifiers.Decimal
