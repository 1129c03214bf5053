import Folio.Text.Blank
import Folio.Text.EntityTable
import Folio.Text.Punctuation
import Folio.Text.Search

/-!
# Character references and backslash escapes

An ampersand, a name or a number, and a semicolon stand for a character. `unescape` resolves these
references and the backslash escapes of punctuation in a text that holds no other markup.
-/

namespace Folio.Text

/-- The value of a hexadecimal digit. -/
def hexDigit? (c : Char) : Option Nat :=
  if c.isDigit then some (c.toNat - '0'.toNat)
  else if 'a' ≤ c ∧ c ≤ 'f' then some (c.toNat - 'a'.toNat + 10)
  else if 'A' ≤ c ∧ c ≤ 'F' then some (c.toNat - 'A'.toNat + 10)
  else none

/-- The number that digits of a base spell. -/
def numberOf (base : Nat) (digits : List Char) : Nat :=
  digits.foldl (fun n c => n * base + (hexDigit? c).getD 0) 0

/-- The entries of the table: names with the characters they stand for. -/
def entityEntries : List (List Char × List Char) :=
  (entityTable.flatMap fun line => splitAt ';' line.toList).filterMap fun entry =>
    match splitAt ' ' entry with
    | name :: codes =>
      if name = [] then none else some (name, codes.map fun code => Char.ofNat (numberOf 16 code))
    | [] => none

/-- The characters that a name stands for. -/
def namedReference? (name : List Char) : Option (List Char) := entityEntries.lookup name

/-- The code points that a numeric reference may name: no surrogates, no code points that are never
assigned, and no control characters but tab, line feed, form feed and carriage return. -/
def isReferable (n : Nat) : Bool :=
  !(0xd800 ≤ n && n ≤ 0xdfff) && !(0xfdd0 ≤ n && n ≤ 0xfdef) && n % 0x10000 < 0xfffe
    && 8 < n && n != 0x0b && !(0x0e ≤ n && n ≤ 0x1f) && !(0x7f ≤ n && n ≤ 0x9f) && n ≤ 0x10ffff

/-- The code point that the text behind the ampersand spells as a number, `#` first, if the digits
are no more than the limit for their base. -/
def numericCode? (decimalLimit hexLimit : Nat) (name : List Char) : Option Nat :=
  match name with
  | '#' :: 'x' :: digits | '#' :: 'X' :: digits =>
    if digits ≠ [] ∧ digits.length ≤ hexLimit ∧ digits.all fun c => (hexDigit? c).isSome then
      some (numberOf 16 digits)
    else none
  | '#' :: digits =>
    if digits ≠ [] ∧ digits.length ≤ decimalLimit ∧ digits.all Char.isDigit then
      some (numberOf 10 digits)
    else none
  | _ => none

/-- The name of the reference at the front of a text, between its ampersand and its semicolon: a
letter or `#`, then 1 to 31 letters and digits. -/
def referenceName? : List Char → Option (List Char)
  | '&' :: c :: cs =>
    let tail := cs.takeWhile Char.isAlphanum
    if (c.isAlpha || c = '#') && 1 ≤ tail.length && tail.length ≤ 31
        && cs[tail.length]? == some ';' then
      some (c :: tail)
    else none
  | _ => none

/-- The characters that the reference with a name stands for. -/
def reference? (name : List Char) : Option (List Char) :=
  match namedReference? name with
  | some chars => some chars
  | none =>
    match numericCode? 8 8 name with
    | some code => if isReferable code then some [Char.ofNat code] else none
    | none => none

/-- What the escape or reference at the front of a text stands for, and how many characters behind
its first one belong to it. -/
def unescapeHead? : List Char → Option (List Char × Nat)
  | '\\' :: c :: _ => if isAsciiPunctuation c then some ([c], 1) else none
  | cs =>
    match referenceName? cs with
    | some name => (reference? name).map (·, name.length + 1)
    | none => none

/-- Unescaping with the first `skip` characters passed over. -/
def unescapeFrom : Nat → List Char → List Char
  | _, [] => []
  | skip + 1, _ :: cs => unescapeFrom skip cs
  | 0, c :: cs =>
    match unescapeHead? (c :: cs) with
    | some (chars, skip) => chars ++ unescapeFrom skip cs
    | none => c :: unescapeFrom 0 cs

/-- Resolve backslash escapes and character references. -/
def unescape (cs : List Char) : List Char := unescapeFrom 0 cs

end Folio.Text
