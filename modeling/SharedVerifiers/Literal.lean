import SharedVerifiers.Text.Bytes
namespace SharedVerifiers.Literal

-- A byte inside a quoted string literal. Whatever is not printable ASCII is
-- written with three octal digits, so no digit that follows joins the escape.
def escapeByte (b : UInt8) : List Char :=
  if b = 92 then ['\\','\\']
  else if b = 9 then ['\\','t']
  else if b = 10 then ['\\','n']
  else if b = 34 then ['\\','"']
  else if 32 ≤ b ∧ b ≤ 126 then [Char.ofNat b.toNat]
  else '\\' :: Text.octal b

def escape (text : String) : String := String.ofList ((Text.bytes text).flatMap escapeByte)

end SharedVerifiers.Literal
