/-!
# Blank characters

The characters with the Unicode property `White_Space`, and the text without the run of
them at either end.
-/

namespace ReliableRouting.Text

/-- The character has the property `White_Space`. -/
def isBlank (c : Char) : Bool :=
  let n := c.toNat
  (9 ≤ n && n ≤ 13) || n == 0x20 || n == 0x85 || n == 0xA0 || n == 0x1680 ||
    (0x2000 ≤ n && n ≤ 0x200A) || n == 0x2028 || n == 0x2029 || n == 0x202F || n == 0x205F ||
    n == 0x3000

/-- The text without the blank characters at its two ends. -/
def trim (cs : List Char) : List Char :=
  ((cs.dropWhile isBlank).reverse.dropWhile isBlank).reverse

/-- The text has no characters other than blank ones. -/
def isBlankText (cs : List Char) : Bool :=
  cs.all isBlank

end ReliableRouting.Text
