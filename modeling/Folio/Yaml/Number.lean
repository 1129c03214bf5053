import Folio.Number.Read
import Folio.Text.Case
import Folio.Text.Search
import Folio.Yaml.Problem

/-!
# Numbers in scalars

Underscores in a number do not count. Version 1.1 also writes octal numbers with a leading zero and
counts in sixties between colons. A scalar with a tag of its own may hold a number that no plain
scalar would be taken for.
-/

namespace Folio.Yaml

open Folio.Number Folio.Text

/-- Whether a text is an exponent: its mark, a sign that may be required, and digits. -/
def isExponent (needsSign : Bool) : List Char → Bool
  | c :: cs =>
    let (signed, digits) :=
      match cs with
      | d :: rest => if d = '-' ∨ d = '+' then (true, rest) else (false, cs)
      | [] => (false, [])
    (c = 'e' || c = 'E') && (signed || !needsSign) && digits ≠ [] && digits.all Char.isDigit
  | [] => false

/-- Digits and underscores. -/
def isDigitOrGap (c : Char) : Bool := c.isDigit || c = '_'

/-- Whether one or two digits below sixty stand between colons, behind the first colon. -/
def isSixties : List (List Char) → Bool
  | [] => false
  | parts =>
    parts.all fun part =>
      match part with
      | [c] => c.isDigit
      | [c, d] => c.isDigit && c.toNat ≤ '5'.toNat && d.isDigit
      | _ => false

/-- Whether a text is written like a floating-point number. -/
def isFloat (legacy : Bool) (cs : List Char) : Bool :=
  let (_, body) := dropSign cs
  let whole := body.takeWhile isDigitOrGap
  let behind := body.drop whole.length
  let begins := whole.head?.any Char.isDigit
  let named (names : List String) (text : List Char) : Bool :=
    names.any fun name => name.toList = text
  let pointed :=
    match behind with
    | '.' :: rest =>
      let exponent := rest.dropWhile isDigitOrGap
      let digits := rest.length - exponent.length
      if whole = [] then
        digits ≠ 0 && (exponent = [] || isExponent true exponent) && (!legacy || body = cs)
      else begins && (exponent = [] || isExponent false exponent)
    | _ => false
  let sixties :=
    match splitAt ':' body with
    | first :: parts@(_ :: _) =>
      let last := parts.getLastD []
      let seconds := last.takeWhile (· ≠ '.')
      let fraction := last.drop seconds.length
      legacy && first.head?.any Char.isDigit && first.all isDigitOrGap
        && isSixties (parts.dropLast ++ [seconds])
        && fraction.head? = some '.' && (fraction.drop 1).all isDigitOrGap
    | _ => false
  pointed || (begins && isExponent false behind) || sixties
    || named [".inf", ".Inf", ".INF"] body || named [".nan", ".NaN", ".NAN"] cs

/-- Whether a text is written like an integer. -/
def isInteger (legacy : Bool) (cs : List Char) : Bool :=
  let (_, body) := dropSign cs
  let based (mark : List Char) (digit : Char → Bool) : Bool :=
    match dropBase mark body with
    | some digits => digits ≠ [] && digits.all fun c => digit c || c = '_'
    | none => false
  let octal (c : Char) : Bool := c.isDigit && c.toNat ≤ '7'.toNat
  let sixties :=
    match splitAt ':' body with
    | first :: parts =>
      first.head?.any (fun c => c.isDigit && c ≠ '0') && first.all isDigitOrGap && isSixties parts
    | [] => false
  based ['0', 'b'] (fun c => c = '0' || c = '1')
    || based ['0', 'x'] (fun c => (hexDigit? c).isSome)
    || (if legacy then
          based [] octal || body = ['0'] || sixties
            || (body.head?.any (fun c => c.isDigit && c ≠ '0') && body.all isDigitOrGap)
        else based ['0', 'o'] octal || based [] Char.isDigit)
where
  /-- The digits behind the mark of a base. -/
  dropBase : List Char → List Char → Option (List Char)
    | [], cs => some cs
    | m :: ms, c :: cs => if m = c then dropBase ms cs else none
    | _ :: _, [] => none

/-- Read an integer in a base. -/
def integerIn (base : Nat) (cs : List Char) : Except Problem Int :=
  match readInteger base cs with
  | .ok n => .ok n
  | .error .malformed => .error (.badInteger base (.ofList cs))
  | .error (.tooLong digits) => .error (.longInteger digits)

/-- The value of numbers between colons, counted in sixties. -/
def sixtiesValue (parts : List (List Char)) : Except Problem Int :=
  (parts.mapM (integerIn 10)).map (·.foldl (fun value part => value * 60 + part) 0)

/-- The value of an integer. -/
def integerOf (legacy : Bool) (cs : List Char) : Except Problem Int :=
  let written := cs.filter (· ≠ '_')
  let (negative, body) := dropSign written
  if written = [] ∨ (legacy ∧ body = []) then .error .emptyNumber
  else
    let value :=
      match body with
      | '0' :: 'b' :: digits => integerIn 2 digits
      | '0' :: 'o' :: digits => integerIn 8 digits
      | '0' :: 'x' :: digits => integerIn 16 digits
      | _ =>
        if legacy && body.head? = some '0' then integerIn 8 body
        else if legacy && body.contains ':' then sixtiesValue (splitAt ':' body)
        else integerIn 10 body
    value.map fun value => if negative then -value else value

/-- Read a real number. -/
def doubleIn (cs : List Char) : Except Problem Double :=
  match readDouble? cs with
  | some value => .ok value
  | none => .error (.badNumber (.ofList cs))

/-- The sum of numbers that count units of a size, then sixties of it and so on. -/
def sumSixties (unit : Nat) (sum : Double) : List Double → Double
  | [] => sum
  | value :: rest => sumSixties (unit * 60) (sum.add (value.scale unit)) rest

/-- The value of a floating-point number. -/
def doubleOf (legacy : Bool) (cs : List Char) : Except Problem Double :=
  let written := lower (cs.filter (· ≠ '_'))
  let (negative, body) := dropSign written
  if written = [] then .error .emptyNumber
  else
    let value :=
      if body = ".inf".toList then .ok (.infinite false)
      else if body = ".nan".toList then .ok .undefined
      else if legacy && body.contains ':' then
        ((splitAt ':' body).mapM doubleIn).map fun parts =>
          sumSixties 1 (.finite false 0 Double.minExponent) parts.reverse
      else if legacy && 1 < body.count 'e' then .error .manyExponents
      else doubleIn body
    value.map fun value => if negative then value.neg else value

end Folio.Yaml
