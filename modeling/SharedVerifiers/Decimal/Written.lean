import SharedVerifiers.Decimal.Binary
namespace SharedVerifiers.Decimal

def zeros (n : Nat) : List Char := List.replicate n '0'

def positional (d : Digits) : List Char :=
  let digits := Nat.toDigits 10 d.digits
  if 0 ≤ d.exponent then digits ++ zeros d.exponent.toNat ++ ['.','0']
  else
    let places := (-d.exponent).toNat
    if places < digits.length then
      digits.take (digits.length - places) ++ '.' :: digits.drop (digits.length - places)
    else '0' :: '.' :: zeros (places - digits.length) ++ digits

def scientific (d : Digits) : List Char :=
  let digits := Nat.toDigits 10 d.digits
  let point : Int := digits.length + d.exponent
  if d.digits = 0 then ['0','.','0']
  else if -5 < point ∧ point ≤ 16 then positional d
  else
    let exponent := 'e' :: (if 0 < point then '+' else '-') :: (toString (point - 1).natAbs).toList
    match digits with
    | [only] => only :: exponent
    | first :: more => first :: '.' :: more ++ exponent
    | [] => exponent

inductive Style where
  | positional | scientific
deriving DecidableEq,Repr

def Style.tie : Style → Tie
  | .positional => .up
  | .scientific => .even

def Style.write : Style → Digits → List Char
  | .positional => Decimal.positional
  | .scientific => Decimal.scientific

def Binary.text (style : Style) : Binary → String
  | .finite negative m =>
    String.ofList ((if negative then ['-'] else []) ++ style.write (m.shortest style.tie))
  | .infinite negative => if negative then "-inf" else "inf"
  | .undefined => "NaN"

end SharedVerifiers.Decimal
