import Folio.Yaml.Problem

/-!
# Lexemes

A document is a row of lexemes. Indentation shows as lexemes of its own: a block collection opens at
its first entry and closes where the indentation ends. Where a text cannot be read any further, the
row ends with the reason, so that what comes before it is looked at first.
-/

namespace Folio.Yaml

/-- A text as code points. Escapes may spell halves of surrogate pairs, which are no characters. -/
abbrev CodePoints := List Nat

/-- The code points of characters. -/
def codePoints (cs : List Char) : CodePoints := cs.map Char.toNat

/-- The character with a code point, if there is one. -/
def charOf? (code : Nat) : Option Char := if code.isValidChar then some (.ofNat code) else none

/-- The characters of a text, with the replacement character for every half of a pair. -/
def CodePoints.chars (codes : CodePoints) : List Char :=
  codes.map fun code => (charOf? code).getD '\ufffd'

/-- What a directive says. -/
inductive Directive where
  | version (major minor : Nat)
  /-- What a handle stands for in front of tags. -/
  | handle (name meaning : List Char)
  | other
  deriving DecidableEq, Repr

/-- A lexeme of a document. -/
inductive Lexeme where
  | directive (directive : Directive)
  | documentStart
  | documentEnd
  | blockSequence
  | blockMapping
  | blockEnd
  | openSequence
  | closeSequence
  | openMapping
  | closeMapping
  /-- The mark of an entry of a block sequence. -/
  | entry
  /-- The mark between entries in brackets. -/
  | comma
  | key
  | value
  | alias (name : List Char)
  | anchor (name : List Char)
  /-- A tag: its handle, if it is not written out, and the rest. -/
  | tag (handle : Option (List Char)) (suffix : List Char)
  | scalar (text : CodePoints) (plain : Bool)
  /-- The reason why the text cannot be read any further. -/
  | failure (problem : Problem)
  deriving DecidableEq, Repr, Inhabited

end Folio.Yaml
