import Folio.Text.Entity
import Folio.Yaml.Cursor
import Folio.Yaml.Lexeme
import Folio.Yaml.Problem

/-!
# Scalars

Plain, quoted and block scalars are read from a cursor. Line breaks inside plain and quoted scalars
fold into spaces, empty lines stay as breaks; block scalars keep or fold their lines by their
header.
-/

namespace Folio.Yaml

open Folio.Text

/-- What a line break and the breaks behind it fold into. -/
def foldBreaks (first : Char) (others : List Char) : List Char :=
  if first ≠ '\n' then first :: others
  else if others.isEmpty then [' ']
  else others

/-! ## Plain scalars -/

/-- A word of a plain scalar. Between brackets more marks end it; `legacy` is version 1.1. -/
def plainWord (flow legacy : Bool) : List Char → List Char
  | [] => []
  | c :: cs =>
    let inner :=
      (c = ':' && !isGap (cs.headD endOfText)) || (c = '?' && !legacy)
    let ends := isGap c || (if flow then ",:?[]\x7b\x7d".toList.contains c else c = ':')
    if ends && !inner then [] else c :: plainWord flow legacy cs

/-- The blanks behind a word of a plain scalar. -/
structure PlainGap where
  /-- What the blanks fold into; nothing if there are none or a document ends. -/
  text : List Char
  cursor : Cursor
  /-- Whether a line ends. -/
  broken : Bool

/-- The breaks of empty lines, up to the first text; none if a document ends there. -/
def emptyLines? : Nat → Cursor → Option (List Char) × Cursor
  | 0, cursor => (some [], cursor)
  | fuel + 1, cursor =>
    let cursor := cursor.skipWhile (· = ' ')
    match cursor.lineBreak? with
    | none => (some [], cursor)
    | some (c, cursor) =>
      if cursor.isAtDocumentMark then (none, cursor)
      else
        let (breaks, cursor) := emptyLines? fuel cursor
        (breaks.map (c :: ·), cursor)

/-- Read the blanks behind a word of a plain scalar. -/
def plainGap (cursor : Cursor) : PlainGap :=
  let (spaces, cursor) := cursor.takeWhile (· = ' ')
  match cursor.lineBreak? with
  | none => ⟨spaces, cursor, false⟩
  | some (first, cursor) =>
    if cursor.isAtDocumentMark then ⟨[], cursor, true⟩
    else
      match emptyLines? cursor.rest.length cursor with
      | (none, cursor) => ⟨[], cursor, true⟩
      | (some breaks, cursor) => ⟨foldBreaks first breaks, cursor, true⟩

/-- A scalar that has been read. -/
structure ReadScalar where
  text : List Char
  cursor : Cursor
  /-- Whether a key may follow at once. -/
  keyAllowed : Bool := false

/-- Read a plain scalar whose lines are indented by at least `indent`; `gap` stands before the next
word. -/
def readPlain (flow legacy : Bool) (indent : Int) : Nat → List Char → Bool → Cursor → ReadScalar
  | 0, _, keyAllowed, cursor => ⟨[], cursor, keyAllowed⟩
  | fuel + 1, gap, keyAllowed, cursor =>
    let word := if cursor.peek = '#' then [] else plainWord flow legacy cursor.rest
    if word.isEmpty then ⟨[], cursor, keyAllowed⟩
    else
      let behind := plainGap (cursor.skip word.length)
      let ends :=
        behind.text.isEmpty || behind.cursor.peek = '#'
          || (!flow && (behind.cursor.column : Int) < indent)
      let rest :=
        if ends then ⟨[], behind.cursor, behind.broken⟩
        else readPlain flow legacy indent fuel behind.text behind.broken behind.cursor
      { rest with text := gap ++ word ++ rest.text }

/-! ## Quoted scalars -/

/-- Escapes of one character. -/
def simpleEscapes : List (Char × Nat) := [
  ('0', 0), ('a', 7), ('b', 8), ('t', 9), ('\t', 9), ('n', 0xa), ('v', 0xb), ('f', 0xc), ('r', 0xd),
  ('e', 0x1b), (' ', 0x20), ('\x22', 0x22), ('/', 0x2f), ('\\', 0x5c), ('N', 0x85), ('_', 0xa0),
  ('L', 0x2028), ('P', 0x2029)]

/-- How many hexadecimal digits follow an escape. -/
def escapeDigits? (c : Char) : Option Nat := [('x', 2), ('u', 4), ('U', 8)].lookup c

/-- The breaks of empty lines in a quoted scalar; a document must not end there. -/
def quotedBreaks : Nat → Cursor → Except Problem (List Char × Cursor)
  | 0, cursor => .ok ([], cursor)
  | fuel + 1, cursor =>
    if cursor.isAtDocumentMark then .error .badLexeme
    else
      let cursor := cursor.skipWhile fun c => c = ' ' || c = '\t'
      match cursor.lineBreak? with
      | none => .ok ([], cursor)
      | some (c, cursor) =>
        (quotedBreaks fuel cursor).map fun (breaks, cursor) => (c :: breaks, cursor)

/-- A code point that is in range. -/
def checkCodePoint (code : Nat) : Except Problem Nat :=
  if code < 0x110000 then .ok code
  else .error (if code < 0x80000000 then .badCodePoint else .hugeCodePoint)

/-- Read an escape from behind its backslash. -/
def readEscape (cursor : Cursor) : Except Problem (CodePoints × Cursor) :=
  let c := cursor.peek
  match simpleEscapes.lookup c, escapeDigits? c with
  | some code, _ => .ok ([code], cursor.next)
  | none, some count =>
    let digits := (cursor.rest.drop 1).take count
    if digits.length = count ∧ digits.all fun d => (hexDigit? d).isSome then
      (checkCodePoint (numberOf 16 digits)).map fun code => ([code], cursor.skip (count + 1))
    else .error .badLexeme
  | none, none =>
    match cursor.lineBreak? with
    | some (_, cursor) =>
      (quotedBreaks (cursor.rest.length + 1) cursor).map fun (breaks, cursor) =>
        (codePoints breaks, cursor)
    | none => .error .badLexeme

/-- Read blanks in a quoted scalar. -/
def quotedGap (cursor : Cursor) : Except Problem (CodePoints × Cursor) :=
  let (spaces, cursor) := cursor.takeWhile fun c => c = ' ' || c = '\t'
  match cursor.lineBreak? with
  | none => .ok (codePoints spaces, cursor)
  | some (first, cursor) =>
    (quotedBreaks (cursor.rest.length + 1) cursor).map fun (breaks, cursor) =>
      (codePoints (foldBreaks first breaks), cursor)

/-- Read a quoted scalar from behind its opening quote. -/
def readQuoted (quote : Char) : Nat → Cursor → Except Problem (CodePoints × Cursor)
  | 0, _ => .error .badLexeme
  | fuel + 1, cursor =>
    let c := cursor.peek
    let goOn (piece : Except Problem (CodePoints × Cursor)) :=
      match piece with
      | .error problem => .error problem
      | .ok (text, cursor) =>
        (readQuoted quote fuel cursor).map fun (rest, cursor) => (text ++ rest, cursor)
    if c = quote then
      if c = '\x27' ∧ cursor.peekAt 1 = '\x27' then goOn (.ok ([c.toNat], cursor.skip 2))
      else .ok ([], cursor.next)
    else if c = '\\' ∧ quote = '\x22' then goOn (readEscape cursor.next)
    else if c = ' ' ∨ c = '\t' ∨ isBreak c then goOn (quotedGap cursor)
    else if c = endOfText then .error .badLexeme
    else goOn (.ok ([c.toNat], cursor.next))

/-! ## Block scalars -/

/-- What happens to the line breaks at the end of a block scalar. -/
inductive Chomping where
  | strip | clip | keep
  deriving DecidableEq, Repr

/-- The header of a block scalar. -/
structure BlockHeader where
  chomping : Chomping := .clip
  /-- The indentation that the header gives. -/
  indent : Option Nat := none

/-- Read the header of a block scalar and the rest of its line. -/
def readHeader (cursor : Cursor) : Except Problem (BlockHeader × Cursor) :=
  let chomping? (c : Char) : Option Chomping :=
    if c = '+' then some .keep else if c = '-' then some .strip else none
  let digit? (c : Char) : Option Nat := if c.isDigit then hexDigit? c else none
  let (header, length) : BlockHeader × Nat :=
    match chomping? cursor.peek, digit? cursor.peek with
    | some chomping, _ =>
      let indent := digit? (cursor.peekAt 1)
      (⟨chomping, indent⟩, if indent.isSome then 2 else 1)
    | none, some indent =>
      match chomping? (cursor.peekAt 1) with
      | some chomping => (⟨chomping, some indent⟩, 2)
      | none => (⟨.clip, some indent⟩, 1)
    | none, none => ({}, 0)
  let cursor := cursor.skip length
  if header.indent = some 0 || !endsWord cursor.peek then .error .badLexeme
  else
    let cursor := cursor.skipWhile (· = ' ')
    let cursor := if cursor.peek = '#' then cursor.skipWhile (!endsComment ·) else cursor
    if isBreak cursor.peek || cursor.peek = endOfText then .ok (header, cursor.skipBreak)
    else .error .badLexeme

/-- Skip at most as many spaces as lead to a column. -/
def skipIndent (indent : Nat) (cursor : Cursor) : Cursor :=
  cursor.skip ((cursor.rest.take (indent - cursor.column)).takeWhile (· = ' ')).length

/-- The breaks of the empty lines before text that is indented by `indent`. -/
def blockBreaks (indent : Nat) : Nat → Cursor → List Char × Cursor
  | 0, cursor => ([], cursor)
  | fuel + 1, cursor =>
    let cursor := skipIndent indent cursor
    match cursor.lineBreak? with
    | none => ([], cursor)
    | some (c, cursor) =>
      let (breaks, cursor) := blockBreaks indent fuel cursor
      (c :: breaks, cursor)

/-- The empty lines before the text of a block scalar. -/
structure Opening where
  breaks : List Char := []
  /-- Where the first of them ends. -/
  first : Option Nat := none
  /-- How far their spaces and those in front of the text reach. -/
  widest : Nat := 0
  cursor : Cursor

/-- Read the empty lines before the text, and the spaces in front of it. -/
def readOpening : Nat → Cursor → Opening
  | 0, cursor => { cursor }
  | fuel + 1, start =>
    let cursor := start.skipWhile (· = ' ')
    let reach := if cursor.index = start.index then 0 else cursor.column
    match cursor.lineBreak? with
    | none => { widest := reach, cursor }
    | some (c, behind) =>
      let rest := readOpening fuel behind
      { rest with
        breaks := c :: rest.breaks, first := some cursor.column, widest := max reach rest.widest }

/-- Whether a line reaches further than the first empty one, which may not be but at the margin. -/
def Opening.isUneven (opening : Opening) : Bool :=
  opening.first.any fun first => 0 < first && first < opening.widest

/-- The lines of a block scalar. -/
structure BlockLines where
  text : List Char
  /-- The break of the last line. -/
  lastBreak : List Char
  /-- The breaks of the empty lines behind it. -/
  trailing : List Char
  cursor : Cursor

/-- Read the lines of a block scalar; `breaks` stand before the next one. -/
def readLines (folded topLevel : Bool) (indent : Nat) : Nat → List Char → Cursor → BlockLines
  | 0, breaks, cursor => ⟨[], [], breaks, cursor⟩
  | fuel + 1, breaks, cursor =>
    if cursor.column ≠ indent ∨ cursor.peek = endOfText then ⟨[], [], breaks, cursor⟩
    else
      let isText (c : Char) : Bool := c ≠ ' ' && c ≠ '\t'
      let plain := isText cursor.peek
      let (text, cursor) := cursor.takeWhile (!endsComment ·)
      let lastBreak := (cursor.lineBreak?.map (·.1)).toList
      let (behind, cursor) := blockBreaks indent (cursor.rest.length + 1) cursor.skipBreak
      let ends :=
        (topLevel && cursor.column = 0 && cursor.isAtDocumentMark)
          || cursor.column ≠ indent || cursor.peek = endOfText
      if ends then ⟨breaks ++ text, lastBreak, behind, cursor⟩
      else
        let joint :=
          if folded && lastBreak = ['\n'] && plain && isText cursor.peek then
            if behind.isEmpty then [' '] else []
          else lastBreak
        let rest := readLines folded topLevel indent fuel behind cursor
        { rest with text := breaks ++ text ++ joint ++ rest.text }

/-- Read a block scalar from behind its mark, inside a block of the given indentation. -/
def readBlockScalar (folded : Bool) (outer : Int) (cursor : Cursor) :
    Except Problem (List Char × Cursor) := do
  let (header, cursor) ← readHeader cursor
  let least := (outer + 1).toNat
  let fuel := cursor.rest.length + 1
  let opening := readOpening fuel cursor
  if header.indent.isNone && opening.isUneven then throw Problem.badLexeme
  else
    let (indent, breaks, cursor) :=
      match header.indent with
      | none => (max least opening.widest, opening.breaks, opening.cursor)
      | some increment =>
        let indent := max least 1 + increment - 1
        let (breaks, cursor) := blockBreaks indent fuel cursor
        (indent, breaks, cursor)
    let topLevel : Bool := header.indent.isNone && least = 0
    let lines := readLines folded topLevel indent fuel breaks cursor
    let behind :=
      match header.chomping with
      | .strip => []
      | .clip => lines.lastBreak
      | .keep => lines.lastBreak ++ lines.trailing
    return (lines.text ++ behind, lines.cursor)

end Folio.Yaml
