/-!
# Blank characters

Blanks are what stripping removes from the ends of a text: the white space of every script and some
separators of the control ranges. `strip` keeps what lies between the first and the last character
that is not blank. Documents count fewer characters as space; `trim` removes only those.
-/

namespace Folio.Text

/-- The white space of ASCII. -/
def isAsciiSpace (c : Char) : Bool :=
  let n := c.toNat
  n == 0x20 || (0x09 ≤ n && n ≤ 0x0d)

/-- White space of every script. -/
def isSpace (c : Char) : Bool :=
  let n := c.toNat
  isAsciiSpace c || n == 0xa0 || n == 0x1680 || (0x2000 ≤ n && n ≤ 0x200a) || n == 0x2028
    || n == 0x2029 || n == 0x202f || n == 0x205f || n == 0x3000

/-- White space of every script, with the information separators U+001C to U+001F and the control
for the next line, U+0085. -/
def isBlank (c : Char) : Bool :=
  let n := c.toNat
  isSpace c || (0x1c ≤ n && n ≤ 0x1f) || n == 0x85

/-- Drop the characters at the end that satisfy `p`. -/
def dropEndWhile (p : Char → Bool) (cs : List Char) : List Char :=
  (cs.reverse.dropWhile p).reverse

/-- Drop the blanks at the end. -/
def stripEnd (cs : List Char) : List Char := dropEndWhile isBlank cs

/-- Drop the blanks at both ends. -/
def strip (cs : List Char) : List Char := stripEnd (cs.dropWhile isBlank)

/-- Drop the white space at both ends. -/
def trim (cs : List Char) : List Char := dropEndWhile isSpace (cs.dropWhile isSpace)

end Folio.Text
