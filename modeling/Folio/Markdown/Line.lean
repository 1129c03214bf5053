import Folio.Text.Utf8

/-!
# Source lines

Block structure is read line by line. A line knows its text from the left edge of the container it
is read in, how much of that text is indentation, and how wide the indentation is in columns, with
tab stops every four columns. Reading the inside of a container works on the same lines with the
container's marks cut off.
-/

namespace Folio.Markdown

open Folio.Text

/-- A space or a tab. -/
def isSpaceOrTab (c : Char) : Bool := c = ' ' || c = '\t'

/-- A line as seen from inside a container. -/
structure Line where
  /-- The text from the left edge of the container on, without the line break. -/
  text : List Char := []
  /-- How many characters of the text lie before its content. -/
  shift : Nat := 0
  /-- The column of the content; negative on a line that can only continue a paragraph. -/
  indent : Int := 0
  /-- The column of the left edge, which tab stops count from. -/
  base : Nat := 0
  /-- Whether a line break follows. -/
  ended : Bool := false
  deriving Repr, Inhabited

namespace Line

/-- The text from the content on. -/
def content (line : Line) : List Char := line.text.drop line.shift

/-- Whether there is no content. -/
def isEmpty (line : Line) : Bool := line.text.length ≤ line.shift

/-- The column behind the spaces and tabs in front of a text, and their number. -/
def measure (base : Int) (column : Int) : List Char → Int × Nat
  | [] => (column, 0)
  | c :: cs =>
    if c = '\t' then
      let (column, count) := measure base (column + (4 - (column + base) % 4)) cs
      (column, count + 1)
    else if c = ' ' then
      let (column, count) := measure base (column + 1) cs
      (column, count + 1)
    else (column, 0)

/-- A line of the source. -/
def ofText (text : List Char) (ended : Bool) : Line :=
  let (indent, shift) := measure 0 0 text
  { text, shift, indent, ended }

/-- The text behind an indentation of the given width. Marks of containers count as one column each,
and the part of a tab that reaches beyond the indentation is written as spaces. -/
def dropIndent (line : Line) (width : Nat) : List Char :=
  go 0 0 line.text
where
  /-- Drop from a position and a column on. -/
  go (position column : Nat) : List Char → List Char
    | [] => List.replicate (column - width) ' '
    | c :: cs =>
      if width ≤ column then List.replicate (column - width) ' ' ++ c :: cs
      else if c = '\t' then go (position + 1) (column + (4 - (column + line.base) % 4)) cs
      else if c = ' ' ∨ position < line.shift then go (position + 1) (column + 1) cs
      else c :: cs

end Line

/-- The lines of a text. A last line of nothing but spaces and tabs that no break ends does not
count. -/
def linesOf (text : List Char) : List Line :=
  go [] text
where
  /-- Read on, with the characters of the current line in reverse. -/
  go (current : List Char) : List Char → List Line
    | [] => if current.all isSpaceOrTab then [] else [.ofText current.reverse false]
    | c :: cs =>
      if c = '\n' then .ofText current.reverse true :: go [] cs else go (c :: current) cs

/-- Unify line breaks and replace characters that may not occur in a document. -/
def normalizeSource (text : List Char) : List Char :=
  (universalNewlines text).map fun c => if c = '\x00' then Char.ofNat 0xfffd else c

/-- The lines of a document; there is an empty one wherever no line is. -/
structure Lines where
  lines : Array Line
  deriving Inhabited

namespace Lines

/-- The line with a number. -/
def line (source : Lines) (n : Nat) : Line := source.lines.getD n {}

/-- Replace a line. -/
def set (source : Lines) (n : Nat) (line : Line) : Lines := ⟨source.lines.setIfInBounds n line⟩

/-- Whether a line is empty or does not exist. -/
def isEmpty (source : Lines) (n : Nat) : Bool := (source.line n).isEmpty

/-- The text of some lines, each behind an indentation; the break of the last one is kept on
request. -/
def slice (source : Lines) (first last width : Nat) (keepBreak : Bool) : List Char :=
  (List.range' first (last - first)).flatMap fun n =>
    let line := source.line n
    line.dropIndent width ++ if line.ended ∧ (n + 1 < last ∨ keepBreak) then ['\n'] else []

/-- The number of the first line from `n` on that is not empty, `limit` if there is none. -/
def skipEmpty (source : Lines) (limit n : Nat) : Nat :=
  go (limit - n) n
where
  /-- Look at no more than `count` lines. -/
  go : Nat → Nat → Nat
    | 0, n => n
    | count + 1, n => if source.isEmpty n then go count (n + 1) else n

end Lines

end Folio.Markdown
