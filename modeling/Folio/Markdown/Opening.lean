import Folio.Markdown.Extensions
import Folio.Markdown.HtmlTag
import Folio.Markdown.Line
import Folio.Markdown.Block
import Folio.Text.Search

/-!
# How blocks begin

Every block but a paragraph shows at its beginning what it is. The functions here look at a line,
for a table also at the next one, and give what the beginning says; they also decide which blocks
end the paragraph or container before them.
-/

namespace Folio.Markdown

open Folio.Text

/-- What blocks are read in. -/
structure Scope where
  extensions : Extensions
  /-- The line that paragraphs cannot reach. -/
  limit : Nat
  /-- The column that content has to reach to belong to the container. -/
  indent : Nat := 0
  /-- The same column outside the innermost list, if the scope lies in one. -/
  listIndent : Option Nat := none
  /-- The depth of nesting. -/
  level : Nat := 0

/-- Nesting that is deeper is not read. -/
def maxNesting : Nat := 20

/-- Whether a line lies to the left of the container. -/
def Scope.excludes (scope : Scope) (line : Line) : Bool := line.indent < scope.indent

/-- Whether a line is indented as far as code is. -/
def Scope.isCode (scope : Scope) (line : Line) : Bool := 4 ≤ line.indent - scope.indent

/-- A run of one character at the front of a text, and the text behind it. -/
def run (mark : Char) (cs : List Char) : Nat × List Char :=
  ((cs.takeWhile (· = mark)).length, cs.dropWhile (· = mark))

/-- The mark of a fence and the words behind it. -/
structure FenceStart where
  mark : Char
  length : Nat
  info : List Char

/-- The beginning of a fenced code block. -/
def fenceStart? (content : List Char) : Option FenceStart :=
  match content with
  | mark :: _ =>
    if mark = '~' ∨ mark = '\x60' then
      let (length, info) := run mark content
      if 3 ≤ length ∧ ¬(mark = '\x60' ∧ info.contains mark) then some ⟨mark, length, info⟩ else none
    else none
  | [] => none

/-- Whether a line closes a fenced code block. -/
def FenceStart.isClosedBy (start : FenceStart) (content : List Char) : Bool :=
  let (length, rest) := run start.mark content
  start.length ≤ length && rest.all isSpaceOrTab

/-- A thematic break: its mark and how often it occurs. -/
def rule? (content : List Char) : Option (Char × Nat) :=
  match content with
  | mark :: _ =>
    let count := content.count mark
    if (mark = '*' ∨ mark = '-' ∨ mark = '_') ∧ 3 ≤ count
        ∧ content.all fun c => c = mark || isSpaceOrTab c then
      some (mark, count)
    else none
  | [] => none

/-- The level of a heading and the text behind its mark, without a closing mark. -/
def heading? (content : List Char) : Option (Nat × List Char) :=
  let (level, rest) := run '#' content
  if 1 ≤ level ∧ level ≤ 6 ∧ (rest.head?.all isSpaceOrTab) then
    let text := dropEndWhile isSpaceOrTab rest
    let unmarked := dropEndWhile (· = '#') text
    some (level, trim (if unmarked.getLast?.any isSpaceOrTab then unmarked else text))
  else none

/-- The level that a line gives to the text above it. -/
def underline? (content : List Char) : Option (Nat × Char) :=
  match content with
  | mark :: _ =>
    if (mark = '=' ∨ mark = '-') ∧ (run mark content).2.all isSpaceOrTab then
      some (if mark = '=' then 1 else 2, mark)
    else none
  | [] => none

/-- The label of a footnote definition and the text behind it. -/
def footnoteStart? (content : List Char) : Option (List Char × List Char) :=
  match content with
  | '[' :: '^' :: cs =>
    let label := cs.takeWhile fun c => c ≠ ']' && c ≠ ' '
    match cs.drop label.length with
    | ']' :: ':' :: rest => if label = [] then none else some (label, rest)
    | _ => none
  | _ => none

/-- The mark of a list item. -/
structure ItemMark where
  /-- The digits of the number, none on a bullet. -/
  digits : List Char
  mark : Char
  /-- The text behind the mark. -/
  rest : List Char

/-- Whether an item is numbered. -/
def ItemMark.isOrdered (item : ItemMark) : Bool := item.digits ≠ []

/-- The number of an item. -/
def ItemMark.number (item : ItemMark) : Nat :=
  item.digits.foldl (fun n c => n * 10 + (c.toNat - '0'.toNat)) 0

/-- The number of characters of the mark. -/
def ItemMark.length (item : ItemMark) : Nat := item.digits.length + 1

/-- The mark of a list item: a bullet, or up to nine digits and a dot or parenthesis, with a space,
a tab or nothing behind it. -/
def itemMark? (content : List Char) : Option ItemMark :=
  let digits := content.takeWhile Char.isDigit
  match content.drop digits.length with
  | mark :: rest =>
    let known :=
      if digits = [] then mark = '*' || mark = '-' || mark = '+'
      else (mark = '.' || mark = ')') && digits.length ≤ 9
    if known && rest.head?.all isSpaceOrTab then some ⟨digits, mark, rest⟩ else none
  | [] => none

/-- The cells of a row: the text between bars that no backslash stands before. The bar of an escaped
one is kept without its backslash. -/
def splitCells (cs : List Char) : List (List Char) :=
  go false [] cs
where
  /-- Read on behind a backslash or not, with the current cell in reverse. -/
  go (escaped : Bool) (cell : List Char) : List Char → List (List Char)
    | [] => [cell.reverse]
    | c :: cs =>
      if c = '|' then
        if escaped then go false (c :: cell.drop 1) cs else cell.reverse :: go false [] cs
      else go (c = '\\') (c :: cell) cs

/-- The cells of a row without the empty ones outside its outer bars. -/
def rowCells (content : List Char) : List (List Char) :=
  let cells := splitCells (trim content)
  let cells := if cells.head? = some [] then cells.drop 1 else cells
  if cells.getLast? = some [] then cells.dropLast else cells

/-- The alignment that a cell below the head of a table asks for. -/
def alignment? (cell : List Char) : Option Alignment :=
  let left := cell.head? == some ':'
  let inner := if left then cell.drop 1 else cell
  let right := inner.getLast? == some ':'
  let dashes := if right then inner.dropLast else inner
  if dashes ≠ [] ∧ dashes.all (· = '-') then
    some (if left then if right then .center else .left else if right then .right else .unset)
  else none

/-- The alignments of the columns that the line below the head of a table gives. Only the outermost
cells may be empty. -/
def alignments? (content : List Char) : Option (List Alignment) :=
  let plain :=
    match content with
    | a :: b :: cs =>
      let isMark (c : Char) : Bool := c = '|' || c = '-' || c = ':'
      isMark a && (isMark b || isSpaceOrTab b) && !(a = '-' && isSpaceOrTab b)
        && cs.all fun c => isMark c || isSpaceOrTab c
    | _ => false
  if plain then
    let cells := (splitAt '|' (trim content)).map trim
    let last := cells.length - 1
    (cells.zipIdx.filter fun (cell, n) => !(cell = [] && (n = 0 || n = last))).mapM
      fun (cell, _) => alignment? cell
  else none

/-- The head of a table: the alignments of its columns and their titles. -/
def tableStart? (scope : Scope) (source : Lines) (n last : Nat) :
    Option (List Alignment × List (List Char)) :=
  let head := source.line n
  let below := source.line (n + 1)
  if !scope.extensions.tables || last < n + 2 || scope.excludes below || scope.isCode below
      || scope.isCode head || !head.content.contains '|' then none
  else
    match alignments? below.content with
    | none => none
    | some alignments =>
      let cells := rowCells head.content
      if cells ≠ [] ∧ cells.length = alignments.length then some (alignments, cells) else none

/-- Whether a list begins on a line. One that would interrupt a paragraph has to begin with text,
and with the number one if it is numbered. -/
def listStart? (scope : Scope) (line : Line) (interrupting : Bool) : Option ItemMark :=
  let outdented :=
    match scope.listIndent with
    | some column => 4 ≤ line.indent - column && scope.excludes line
    | none => false
  if scope.isCode line || outdented then none
  else
    match itemMark? line.content with
    | none => none
    | some item =>
      if interrupting && !scope.excludes line
          && ((item.isOrdered && item.number ≠ 1) || item.rest.all isSpaceOrTab) then none
      else some item

/-! ## Ends of paragraphs and containers -/

/-- Whether a line begins a fenced code block, a quote or a thematic break. These end a list. -/
def endsList (scope : Scope) (line : Line) : Bool :=
  !scope.isCode line &&
    ((fenceStart? line.content).isSome || line.content.head? == some '>'
      || (rule? line.content).isSome)

/-- Whether a line begins a block that ends a quote or a table before it; `paragraph` tells whether
it is a paragraph that would end. -/
def endsContainer (scope : Scope) (line : Line) (paragraph : Bool) : Bool :=
  endsList scope line || (listStart? scope line paragraph).isSome ||
    !scope.isCode line &&
      ((htmlStart? line.content).any (·.interrupts) || (heading? line.content).isSome)

/-- Whether a line begins a block that ends the text before it, a paragraph or a definition. -/
def endsText (scope : Scope) (source : Lines) (n last : Nat) (paragraph : Bool) : Bool :=
  let line := source.line n
  (tableStart? scope source n last).isSome || endsContainer scope line paragraph ||
    (scope.extensions.footnotes && !scope.isCode line && (footnoteStart? line.content).isSome)

end Folio.Markdown
