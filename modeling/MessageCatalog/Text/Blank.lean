import MessageCatalog.Text.Range

/-! Blank characters are those with the White_Space property; trimming removes them from the ends. -/

namespace MessageCatalog

/-- The blank characters beyond ASCII. -/
def wideBlankRanges : List (Nat × Nat) :=
  [(0x85, 0x85), (0xA0, 0xA0), (0x1680, 0x1680), (0x2000, 0x200A), (0x2028, 0x2029),
    (0x202F, 0x202F), (0x205F, 0x205F), (0x3000, 0x3000)]

/-- Blank characters separate words and never belong to one. -/
def isBlank (c : Char) : Bool :=
  if c.toNat < 0x80 then c == ' ' || (decide (0x09 ≤ c.toNat) && decide (c.toNat ≤ 0x0D))
  else inRanges wideBlankRanges c.toNat

/-- Dropping leading blanks leaves a text that starts with another character. -/
def trimStart (text : List Char) : List Char :=
  text.dropWhile isBlank

/-- Dropping trailing blanks leaves a text that ends with another character. -/
def trimEnd (text : List Char) : List Char :=
  (text.reverse.dropWhile isBlank).reverse

/-- Trimming drops the blanks at both ends. -/
def trim (text : List Char) : List Char :=
  trimEnd (trimStart text)

end MessageCatalog
