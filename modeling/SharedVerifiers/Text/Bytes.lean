namespace SharedVerifiers.Text

-- Lengths, digests and escapes all count bytes, never characters.
def bytes (text : String) : List UInt8 := text.toList.flatMap String.utf8EncodeChar

def ofBytes? (bytes : List UInt8) : Option String := String.fromUTF8? ⟨bytes.toArray⟩

def hexDigit (n : Nat) : Char := if n < 10 then Char.ofNat (48 + n) else Char.ofNat (87 + n)
def hexDigitUpper (n : Nat) : Char := if n < 10 then Char.ofNat (48 + n) else Char.ofNat (55 + n)

def hex (b : UInt8) : List Char := [hexDigit (b.toNat / 16),hexDigit (b.toNat % 16)]
def hexUpper (b : UInt8) : List Char := [hexDigitUpper (b.toNat / 16),hexDigitUpper (b.toNat % 16)]

def octal (b : UInt8) : List Char :=
  [Char.ofNat (48 + b.toNat / 64),Char.ofNat (48 + b.toNat / 8 % 8),Char.ofNat (48 + b.toNat % 8)]

theorem bytes_join (texts : List String) : bytes (String.join texts) = texts.flatMap bytes := by
  simp only [bytes,String.toList_join,List.flatMap_assoc]
  rfl

end SharedVerifiers.Text
