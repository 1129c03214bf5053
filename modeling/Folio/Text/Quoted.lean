import Folio.Text.Printable

/-!
# Quoted texts in messages

A text in an error message stands between quotes, with escapes for what does not print. Texts from
outside may hold code points between U+D800 and U+DFFF, which are no characters and are shown as
escapes. A byte that decodes to no character is read as U+DC00 plus its value.
-/

namespace Folio.Text

/-- A unit of a text from outside: a character, or a lone surrogate, given by its distance from
U+D800. -/
inductive RawUnit where
  | char (c : Char)
  | surrogate (offset : Fin 0x800)
  deriving DecidableEq, Repr

/-- The unit for a byte that decodes to no character. -/
def RawUnit.ofByte (b : UInt8) : RawUnit :=
  .surrogate ⟨0x400 + b.toNat, by have := b.toNat_lt; omega⟩

/-- The characters of a text from outside, if every unit is one. -/
def chars? : List RawUnit → Option (List Char)
  | [] => some []
  | .char c :: rest => (chars? rest).map (c :: ·)
  | .surrogate _ :: _ => none

/-- A number in lower-case hexadecimal, with zeros in front up to a width. -/
def hexPadded (width n : Nat) : String :=
  let digits := String.ofList (Nat.toDigits 16 n)
  "".pushn '0' (width - digits.length) ++ digits

/-- The escape of a code point, as short as its value allows. -/
def codePointEscape (n : Nat) : String :=
  if n < 0x100 then "\\x" ++ hexPadded 2 n
  else if n < 0x10000 then "\\u" ++ hexPadded 4 n
  else "\\U" ++ hexPadded 8 n

/-- One unit between quotes of the given kind. -/
def quoteUnit (mark : Char) : RawUnit → String
  | .surrogate offset => codePointEscape (0xd800 + offset)
  | .char c =>
    if c = mark || c = '\\' then "\\" ++ c.toString
    else if c = '\t' then "\\t"
    else if c = '\n' then "\\n"
    else if c = '\r' then "\\r"
    else if isPrintable c then c.toString
    else codePointEscape c.toNat

/-- The text between single quotes, or between double quotes when it holds single quotes and no
double ones. -/
def quoteUnits (units : List RawUnit) : String :=
  let mark :=
    if units.contains (.char '\x27') && !units.contains (.char '\x22') then '\x22' else '\x27'
  mark.toString ++ String.join (units.map (quoteUnit mark)) ++ mark.toString

/-- `quoteUnits` on a string. -/
def quote (s : String) : String := quoteUnits (s.toList.map .char)

end Folio.Text
