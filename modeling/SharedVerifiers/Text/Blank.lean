namespace SharedVerifiers.Text

-- Exactly the characters with the property White_Space. Core's own class of
-- blanks holds the ASCII ones only, and not all of those.
def isBlank (c : Char) : Bool :=
  let n := c.toNat
  (9 ≤ n && n ≤ 13) || n == 32 || n == 0x85 || n == 0xA0 || n == 0x1680 ||
  (0x2000 ≤ n && n ≤ 0x200A) || n == 0x2028 || n == 0x2029 || n == 0x202F || n == 0x205F ||
  n == 0x3000

def hasInk (text : String) : Bool := text.toList.any fun c => !isBlank c

theorem hasInk_exact (text : String) :
    hasInk text = true ↔ ∃ c ∈ text.toList, isBlank c = false := by
  simp [hasInk]

end SharedVerifiers.Text
