import Folio.Number.Double
import Folio.Text.Blank
import Folio.Text.Digit
import Folio.Text.Entity
import Folio.Text.Search

/-!
# Numbers in texts

Integers and real numbers are read from texts. White space may stand around them and a sign in
front; digits of every script count, and single underscores may stand between digits.
-/

namespace Folio.Number

open Folio.Text

/-- White space around a number: that of every script, and the control for the next line. -/
def isMargin (c : Char) : Bool := isSpace c || c = '\u0085'

/-- A text without the white space around it. -/
def dropMargins (cs : List Char) : List Char := dropEndWhile isMargin (cs.dropWhile isMargin)

/-- A text without its sign, and whether the sign is a minus. -/
def dropSign : List Char → Bool × List Char
  | '-' :: cs => (true, cs)
  | '+' :: cs => (false, cs)
  | cs => (false, cs)

/-! ## Integers -/

/-- Why a text is no integer. -/
inductive Misreading where
  | malformed
  /-- More digits than are read. -/
  | tooLong (digits : Nat)
  deriving DecidableEq, Repr

/-- The most digits of a number that is not written in a power of two. -/
def maxDigits : Nat := 4300

/-- The value of a digit in a base up to sixteen. -/
def digitIn? (base : Nat) (c : Char) : Option Nat :=
  ((digitValue? c).orElse fun _ => hexDigit? c).filter (· < base)

/-- The digits of a text in which at most single underscores stand between them. -/
def digitsIn? (base : Nat) (cs : List Char) : Option (List Nat) :=
  ((splitAt '_' cs).mapM fun part =>
    if part = [] then none else part.mapM (digitIn? base)).map List.flatten

/-- The letter that marks a base behind a zero. -/
def baseMark? (base : Nat) : Option Char := [(2, 'b'), (8, 'o'), (16, 'x')].lookup base

/-- The text behind the mark of a base, if it stands in front. An underscore may follow the mark. -/
def behindBaseMark? (base : Nat) : List Char → Option (List Char)
  | '0' :: c :: cs =>
    if baseMark? base = some c.toLower then some (if cs.head? = some '_' then cs.drop 1 else cs)
    else none
  | _ => none

/-- How many digits a text begins with; underscores among them do not count. -/
def countDigits (base : Nat) (cs : List Char) : Nat :=
  let digits := cs.takeWhile fun c => c = '_' || (digitIn? base c).isSome
  (digits.filter (· ≠ '_')).length

/-- Read an integer; the mark of its base may stand in front. -/
def readInteger (base : Nat) (cs : List Char) : Except Misreading Int :=
  let (negative, body) := dropSign (dropMargins cs)
  let written := (behindBaseMark? base body).getD body
  let count := countDigits base written
  if (baseMark? base).isNone && maxDigits < count then .error (.tooLong count)
  else
    match digitsIn? base written with
    | none => .error .malformed
    | some digits =>
      let magnitude : Nat := digits.foldl (fun value digit => value * base + digit) 0
      .ok (if negative then -(magnitude : Int) else magnitude)

/-! ## Real numbers -/

/-- A text with ASCII digits for the digits of other scripts. -/
def withAsciiDigits (cs : List Char) : List Char :=
  cs.map fun c => ((digitValue? c).map Nat.digitChar).getD c

/-- A text without underscores, if each of them stands between two digits; `behindDigit` tells
whether a digit comes before. -/
def dropUnderscores? (behindDigit : Bool) : List Char → Option (List Char)
  | [] => some []
  | c :: cs =>
    if c = '_' then
      if behindDigit && cs.head?.any Char.isDigit then dropUnderscores? false cs else none
    else (dropUnderscores? c.isDigit cs).map (c :: ·)

/-- Read the exponent at the front of a text, zero if there is none. -/
def takeExponent (cs : List Char) : Int × List Char :=
  match cs with
  | c :: rest =>
    let (negative, body) := dropSign rest
    let digits := body.takeWhile Char.isDigit
    if (c = 'e' ∨ c = 'E') ∧ digits ≠ [] then
      let value : Int := numberOf 10 digits
      (if negative then -value else value, body.drop digits.length)
    else (0, cs)
  | [] => (0, cs)

/-- Read digits at the front of a text, a point among them, and an exponent. -/
def takeDecimal? (negative : Bool) (cs : List Char) : Option (Double × List Char) :=
  let whole := cs.takeWhile Char.isDigit
  let behind := cs.drop whole.length
  let (fraction, behind) :=
    match behind with
    | '.' :: rest => (rest.takeWhile Char.isDigit, rest.dropWhile Char.isDigit)
    | _ => ([], behind)
  if whole = [] ∧ fraction = [] then none
  else
    let (exponent, rest) := takeExponent behind
    some (.ofDecimal negative (numberOf 10 (whole ++ fraction)) (exponent - fraction.length), rest)

/-- Words for numbers that are not finite, the longer ones first. -/
def namedDoubles (negative : Bool) : List (String × Double) :=
  [("infinity", .infinite negative), ("inf", .infinite negative), ("nan", .undefined)]

/-- Read a real number with its sign at the front of a text. -/
def takeDouble? (cs : List Char) : Option (Double × List Char) :=
  let (negative, body) := dropSign cs
  let lowered := body.map Char.toLower
  match (namedDoubles negative).find? fun (name, _) => name.toList.isPrefixOf lowered with
  | some (name, value) => some (value, body.drop name.length)
  | none => takeDecimal? negative body

/-- The characters of a number as they are read: without white space around them and underscores
between digits, and with ASCII digits. -/
def numberText? (cs : List Char) : Option (List Char) :=
  dropUnderscores? false (withAsciiDigits (dropMargins cs))

/-- Read a real number. -/
def readDouble? (cs : List Char) : Option Double :=
  match (numberText? cs).bind takeDouble? with
  | some (value, []) => some value
  | _ => none

/-- Whether a text is a complex number: a real part, an imaginary part with its unit behind it, or
both. The imaginary part may be a sign alone. -/
def isComplex (cs : List Char) : Bool :=
  let isUnit (rest : List Char) : Bool := rest = ['j'] || rest = ['J']
  let isImaginary (rest : List Char) : Bool :=
    match takeDouble? rest with
    | some (_, rest) => isUnit rest
    | none => isUnit (dropSign rest).2
  match numberText? cs with
  | none => false
  | some text =>
    match takeDouble? text with
    | none => isImaginary text
    | some (_, rest) =>
      let isSigned : Bool := rest.head? = some '+' || rest.head? = some '-'
      rest = [] || isUnit rest || (isSigned && isImaginary rest)

end Folio.Number
