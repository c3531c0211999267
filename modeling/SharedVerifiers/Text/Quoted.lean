import SharedVerifiers.Text.Hidden
namespace SharedVerifiers.Text

def quoteChar (c : Char) : List Char :=
  if c = '\x00' then ['\\','0']
  else if c = '\t' then ['\\','t']
  else if c = '\n' then ['\\','n']
  else if c = '\r' then ['\\','r']
  else if c = '"' then ['\\','"']
  else if c = '\\' then ['\\','\\']
  else if isHidden c then
    ['\\','u',Char.ofNat 0x7B] ++ Nat.toDigits 16 c.toNat ++ [Char.ofNat 0x7D]
  else [c]

def quote (text : String) : String := String.ofList ('"' :: text.toList.flatMap quoteChar ++ ['"'])

end SharedVerifiers.Text
