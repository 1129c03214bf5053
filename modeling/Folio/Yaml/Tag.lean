import Folio.Text.Entity
import Folio.Text.Utf8
import Folio.Yaml.Cursor
import Folio.Yaml.Lexeme
import Folio.Yaml.Problem

/-!
# Tags, anchors and directives

The lexemes that say something about a node or about the whole document.
-/

namespace Folio.Yaml

open Folio.Text

/-- Characters of a handle. -/
def isHandleChar (c : Char) : Bool := c.isAlphanum || c = '-' || c = '_'

/-- Characters of the rest of a tag. -/
def isTagChar (legacy : Bool) (c : Char) : Bool :=
  c.isAlphanum || "-;/?:@&=+$,_.!~*\x27()[]%".toList.contains c || (!legacy && c = '#')

/-- Characters of the name of an anchor. -/
def isAnchorChar (c : Char) : Bool :=
  let n := c.toNat
  !",[]\x7b\x7d".toList.contains c &&
    ((0x21 ≤ n && n ≤ 0x7e) || (0xa0 ≤ n && n ≤ 0xfffd && n ≠ 0xfeff) || 0x10000 ≤ n)

/-- Read the name of an anchor or alias from behind its mark. -/
def readAnchor (cursor : Cursor) : Except Problem (List Char × Cursor) :=
  let (name, cursor) := cursor.takeWhile isAnchorChar
  let c := cursor.peek
  if name.isEmpty || !(isGap c || isBreak c || "?:,[]\x7b\x7d%@\x60".toList.contains c) then
    .error .badLexeme
  else .ok (name, cursor)

/-- The bytes that escapes at the front of a text spell, and the text behind them. -/
def escapedBytes : List Char → Except Problem (List UInt8 × List Char)
  | '%' :: a :: b :: cs =>
    match hexDigit? a, hexDigit? b with
    | some high, some low =>
      (escapedBytes cs).map fun (bytes, rest) => (UInt8.ofNat (16 * high + low) :: bytes, rest)
    | _, _ => .error .badLexeme
  | '%' :: _ => .error .badLexeme
  | cs => .ok ([], cs)

/-- The rest of a tag with its escapes resolved. -/
def unescapeTag : Nat → List Char → Except Problem (List Char)
  | 0, cs => .ok cs
  | _, [] => .ok []
  | fuel + 1, c :: cs =>
    if c = '%' then
      match escapedBytes (c :: cs) with
      | .error problem => .error problem
      | .ok (bytes, rest) =>
        match decode bytes with
        | .error _ => .error .badLexeme
        | .ok text => (unescapeTag fuel rest).map (text ++ ·)
    else (unescapeTag fuel cs).map (c :: ·)

/-- Read the rest of a tag. -/
def readTagSuffix (legacy : Bool) (cursor : Cursor) : Except Problem (List Char × Cursor) :=
  let (written, cursor) := cursor.takeWhile (isTagChar legacy)
  if written.isEmpty then .error .badLexeme
  else (unescapeTag written.length written).map (·, cursor)

/-- Read a handle with its marks. -/
def readHandle (cursor : Cursor) : Except Problem (List Char × Cursor) :=
  if cursor.peek ≠ '!' then .error .badLexeme
  else if cursor.peekAt 1 = ' ' then .ok (['!'], cursor.next)
  else
    let (name, behind) := cursor.next.takeWhile isHandleChar
    if behind.peek = '!' then .ok ('!' :: name ++ ['!'], behind.next) else .error .badLexeme

/-- Read a tag. -/
def readTag (legacy : Bool) (cursor : Cursor) : Except Problem (Lexeme × Cursor) := do
  let (tag, cursor) ←
    if cursor.peekAt 1 = '<' then do
      let (suffix, cursor) ← readTagSuffix legacy (cursor.skip 2)
      if cursor.peek = '>' then pure (Lexeme.tag none suffix, cursor.next)
      else throw Problem.badLexeme
    else if isGap (cursor.peekAt 1) then pure (Lexeme.tag none ['!'], cursor.next)
    else do
      let word := cursor.next.rest.takeWhile (!endsWord ·)
      let (handle, cursor) ←
        if word.contains '!' then readHandle cursor else pure (['!'], cursor.next)
      let (suffix, cursor) ← readTagSuffix legacy cursor
      pure (Lexeme.tag (some handle) suffix, cursor)
  if endsWord cursor.peek then return (tag, cursor) else throw Problem.badLexeme

/-- Read a number of a version. -/
def readVersionPart (cursor : Cursor) : Except Problem (Nat × Cursor) :=
  let (digits, cursor) := cursor.takeWhile Char.isDigit
  if digits.isEmpty then .error .badLexeme else .ok (numberOf 10 digits, cursor)

/-- Read a directive from behind its mark, with the rest of its line. -/
def readDirective (legacy : Bool) (cursor : Cursor) : Except Problem (Directive × Cursor) := do
  let isSpace (c : Char) : Bool := c = ' '
  let (name, cursor) := cursor.takeWhile fun c => isHandleChar c || c = ':' || c = '.'
  if name.isEmpty || !endsWord cursor.peek then throw Problem.badLexeme
  else
    let (directive, cursor) ←
      if name = "YAML".toList then do
        let (major, cursor) ← readVersionPart (cursor.skipWhile isSpace)
        if cursor.peek ≠ '.' then throw Problem.badLexeme
        else
          let (minor, cursor) ← readVersionPart cursor.next
          if endsWord cursor.peek then pure (Directive.version major minor, cursor)
          else throw Problem.badLexeme
      else if name = "TAG".toList then do
        let (handle, cursor) ← readHandle (cursor.skipWhile isSpace)
        if cursor.peek ≠ ' ' then throw Problem.badLexeme
        else
          let (meaning, cursor) ← readTagSuffix legacy (cursor.skipWhile isSpace)
          if endsWord cursor.peek then pure (Directive.handle handle meaning, cursor)
          else throw Problem.badLexeme
      else pure (Directive.other, cursor.skipWhile (!endsComment ·))
    let cursor := cursor.skipWhile isSpace
    let cursor := if cursor.peek = '#' then cursor.skipWhile (!endsComment ·) else cursor
    if isBreak cursor.peek || cursor.peek = endOfText then return (directive, cursor.skipBreak)
    else throw Problem.badLexeme

end Folio.Yaml
