/-!
# Positions in a document

A cursor holds the rest of the text with the line and column it begins at. Only the common line
breaks begin a new line for it; behind the others the column goes on. Behind the end of the text it
shows the null character, which no document holds.
-/

namespace Folio.Yaml

/-- A position in a text. -/
structure Cursor where
  rest : List Char
  /-- How many characters lie before the position. -/
  index : Nat := 0
  line : Nat := 0
  column : Nat := 0
  deriving Inhabited

/-- The character that stands for the end of the text. -/
def endOfText : Char := '\x00'

/-- Characters that break a line. -/
def isBreak (c : Char) : Bool :=
  c = '\n' || c = '\r' || c = '\u0085' || c = '\u2028' || c = '\u2029'

/-- Characters that end a comment: line breaks and the end of the text. -/
def endsComment (c : Char) : Bool := isBreak c || c = endOfText

/-- Characters that keep lexemes apart. -/
def isGap (c : Char) : Bool := endsComment c || c = ' ' || c = '\t'

/-- Characters that end a name: a space, a line break or the end of the text. -/
def endsWord (c : Char) : Bool := isBreak c || c = ' ' || c = endOfText

namespace Cursor

/-- The character at the position. -/
def peek (cursor : Cursor) : Char := cursor.rest.headD endOfText

/-- The character some places further on. -/
def peekAt (cursor : Cursor) (n : Nat) : Char := cursor.rest.getD n endOfText

/-- Go on by one character. -/
def next (cursor : Cursor) : Cursor :=
  match cursor.rest with
  | [] => cursor
  | c :: rest =>
    let index := cursor.index + 1
    if c = '\n' || (c = '\r' && rest.head? ≠ some '\n') then
      { rest, index, line := cursor.line + 1, column := 0 }
    else
      { rest, index, line := cursor.line,
        column := if c.toNat = 0xfeff then cursor.column else cursor.column + 1 }

/-- Go on by some characters. -/
def skip (cursor : Cursor) (n : Nat) : Cursor := n.repeat next cursor

/-- Go on as long as characters satisfy `p`. -/
def skipWhile (cursor : Cursor) (p : Char → Bool) : Cursor :=
  cursor.skip (cursor.rest.takeWhile p).length

/-- The characters from the position on that satisfy `p`, and the position behind them. -/
def takeWhile (cursor : Cursor) (p : Char → Bool) : List Char × Cursor :=
  let taken := cursor.rest.takeWhile p
  (taken, cursor.skip taken.length)

/-- Read a line break. The common ones count as a line feed. -/
def lineBreak? (cursor : Cursor) : Option (Char × Cursor) :=
  match cursor.rest with
  | '\r' :: '\n' :: _ => some ('\n', cursor.skip 2)
  | c :: _ =>
    if isBreak c then some (if c = '\u2028' ∨ c = '\u2029' then c else '\n', cursor.next) else none
  | [] => none

/-- Read a line break if there is one. -/
def skipBreak (cursor : Cursor) : Cursor := (cursor.lineBreak?.map (·.2)).getD cursor

/-- Whether a mark of three equal characters stands here. -/
def isAtMark (cursor : Cursor) (mark : Char) : Bool :=
  (cursor.rest.take 3) = [mark, mark, mark] && isGap (cursor.peekAt 3)

/-- Whether a mark between documents stands here. -/
def isAtDocumentMark (cursor : Cursor) : Bool := cursor.isAtMark '-' || cursor.isAtMark '.'

end Cursor

end Folio.Yaml
