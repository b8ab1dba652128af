/-!
# Blanks around a text

The blank characters are those with the Unicode property White_Space, which has more
members than the ASCII blanks. `trim` removes them from both ends of a text.
-/

namespace LoadTest.Text

/-- Whether a character has the property White_Space. -/
def isBlank (c : Char) : Bool :=
  let n := c.toNat
  (0x09 ≤ n && n ≤ 0x0d) || n = 0x20 || n = 0x85 || n = 0xa0 || n = 0x1680 ||
    (0x2000 ≤ n && n ≤ 0x200a) || n = 0x2028 || n = 0x2029 || n = 0x202f || n = 0x205f ||
    n = 0x3000

/-- Remove the blanks at the start. -/
def trimStart (cs : List Char) : List Char := cs.dropWhile isBlank

/-- Remove the blanks at the end. -/
def trimEnd (cs : List Char) : List Char := (cs.reverse.dropWhile isBlank).reverse

/-- Remove the blanks at both ends. -/
def trim (cs : List Char) : List Char := trimEnd (trimStart cs)

end LoadTest.Text
