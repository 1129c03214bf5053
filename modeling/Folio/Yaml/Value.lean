import Folio.Number.Shortest
import Folio.Text.Quoted
import Folio.Yaml.Date
import Folio.Yaml.Lexeme

/-!
# Values

What a document says. A mapping keeps the order of its entries, and no two of its keys are equal;
numbers of different types are equal if their values are, and truth counts as one.
-/

namespace Folio.Yaml

open Folio.Number Folio.Text

/-- A value of a document. -/
inductive Value where
  | null
  | bool (b : Bool)
  | int (n : Int)
  | real (x : Double)
  | text (s : String)
  /-- A text with halves of surrogate pairs in it. -/
  | halved (codes : CodePoints)
  | bytes (data : List UInt8)
  | moment (m : Moment)
  | sequence (items : List Value)
  /-- A sequence that does not change, as keys are. -/
  | tuple (items : List Value)
  | set (items : List Value)
  | mapping (entries : List (Value × Value))
  deriving Repr, Inhabited

namespace Value

/-- The value of a text. -/
def ofCodePoints (codes : CodePoints) : Value :=
  match codes.mapM charOf? with
  | some cs => .text (.ofList cs)
  | none => .halved codes

/-- The integer that a value equals. -/
def integer? : Value → Option Int
  | .bool b => some (if b then 1 else 0)
  | .int n => some n
  | _ => none

/-- Whether two values that hold no others are equal. -/
def sameScalar (a b : Value) : Bool :=
  match a.integer?, b.integer? with
  | some m, some n => m = n
  | some m, none =>
    match b with
    | .real x => x.equalsInt m
    | _ => false
  | none, some n =>
    match a with
    | .real x => x.equalsInt n
    | _ => false
  | none, none =>
    match a, b with
    | .null, .null => true
    | .real x, .real y => x.equals y
    | .text s, .text t => s = t
    | .halved s, .halved t => s = t
    | .bytes s, .bytes t => s = t
    | .moment s, .moment t => s.equals t
    | _, _ => false

mutual

/-- Whether two keys are equal. -/
def sameKey : Value → Value → Bool
  | .tuple xs, .tuple ys => sameKeys xs ys
  | a, b => sameScalar a b

/-- Whether keys are equal one by one. -/
def sameKeys : List Value → List Value → Bool
  | [], [] => true
  | x :: xs, y :: ys => sameKey x y && sameKeys xs ys
  | _, _ => false

end

/-- Put an entry into a mapping; an equal key keeps its place. -/
def putEntry {α : Type} (key : Value) (value : α) : List (Value × α) → List (Value × α)
  | [] => [(key, value)]
  | entry :: rest =>
    if entry.1.sameKey key then (entry.1, value) :: rest else entry :: putEntry key value rest

/-- The entries of a mapping; a later one takes the place of an earlier one with an equal key. -/
def entriesOfPairs (pairs : List (Value × Value)) : List (Value × Value) :=
  pairs.foldl (fun entries (key, value) => putEntry key value entries) []

/-- Whether a value counts as nothing: null, false, zero, or empty. -/
def isEmpty : Value → Bool
  | .null => true
  | .bool b => !b
  | .int n => n = 0
  | .real x => x.isZero
  | .text s => s = ""
  | .bytes data => data.isEmpty
  | .halved _ | .moment _ => false
  | .sequence items | .tuple items | .set items => items.isEmpty
  | .mapping entries => entries.isEmpty

/-- Bytes between single quotes, or double ones if only they are missing. -/
def bytesText (data : List UInt8) : String :=
  let quote : Char := if data.contains 0x27 && !data.contains 0x22 then '\x22' else '\x27'
  let spell (b : UInt8) : List Char :=
    let c := Char.ofNat b.toNat
    if c = quote ∨ c = '\\' then ['\\', c]
    else if c = '\n' then ['\\', 'n']
    else if c = '\r' then ['\\', 'r']
    else if c = '\t' then ['\\', 't']
    else if 0x20 ≤ b ∧ b < 0x7f then [c]
    else '\\' :: 'x' :: (hexPadded 2 b.toNat).toList
  .ofList ('b' :: quote :: data.flatMap spell ++ [quote])

/-- A value that holds no others, as messages show it. -/
def scalarText : Value → String
  | .null => "None"
  | .bool b => if b then "True" else "False"
  | .int n => toString n
  | .real x => x.toText
  | .text s => s
  | .halved codes => .ofList codes.chars
  | .bytes data => bytesText data
  | .moment m => m.toText
  | _ => ""

/-- A text with halves of surrogate pairs between quotes, each half as an escape. -/
def quoteHalved (codes : CodePoints) : String :=
  let chars := codes.filterMap charOf?
  let mark := if chars.contains '\x27' && !chars.contains '\x22' then '\x22' else '\x27'
  let spell (code : Nat) : String :=
    match charOf? code with
    | some c => quoteUnit mark (.char c)
    | none => codePointEscape code
  mark.toString ++ String.join (codes.map spell) ++ mark.toString

/-- A value inside a sequence, as messages show it, if it holds no others itself. -/
def innerScalarText : Value → String
  | .text s => quote s
  | .halved codes => quoteHalved codes
  | .moment m => m.innerText
  | value => value.scalarText

/-- The end of a sequence; a single item has a comma behind it. -/
def closing : List Value → String
  | [_] => ",)"
  | _ => ")"

mutual

/-- A value inside a sequence, as messages show it. -/
def innerText : Value → String
  | .tuple items => "(" ++ ", ".intercalate (innerTexts items) ++ closing items
  | value => value.innerScalarText

/-- Values inside a sequence, as messages show them. -/
def innerTexts : List Value → List String
  | [] => []
  | item :: rest => innerText item :: innerTexts rest

end

/-- A key as messages show it. -/
def keyText (key : Value) : String :=
  match key with
  | .tuple _ => key.innerText
  | _ => key.scalarText

end Value

end Folio.Yaml
