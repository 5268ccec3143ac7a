/-!
# Blank characters

The characters with the Unicode property White_Space, and texts without the blanks around them.
-/

namespace BuildFleet.Text

/-- Whether the character has the property White_Space. -/
def isBlank (c : Char) : Bool :=
  let n := c.toNat
  (0x09 ≤ n && n ≤ 0x0D) || n == 0x20 || n == 0x85 || n == 0xA0 || n == 0x1680 ||
    (0x2000 ≤ n && n ≤ 0x200A) || n == 0x2028 || n == 0x2029 || n == 0x202F || n == 0x205F ||
    n == 0x3000

/-- The characters after leading blanks. -/
def skipBlanks (cs : List Char) : List Char := cs.dropWhile isBlank

/-- The characters between leading and trailing blanks. -/
def trim (cs : List Char) : List Char := (skipBlanks (skipBlanks cs).reverse).reverse

end BuildFleet.Text
