import Folio.Text.Case
import Folio.Text.Entity

/-!
# Link targets

The destination and the title of a link are read from a position of a text up to a limit. A title
may go on beyond the limit when more lines follow, so reading it can be resumed. Labels are compared
in a form that forgets case and the kind of blanks.
-/

namespace Folio.Markdown

open Folio.Text

/-- The characters from one position to another. -/
def slice (source : Array Char) (first last : Nat) : List Char := (source.extract first last).toList

/-- The first position from `first` on, below `limit`, whose character does not satisfy `p`. -/
def skipWhile (p : Char → Bool) (source : Array Char) (limit first : Nat) : Nat :=
  go (limit - first) first
where
  /-- Look at no more than `count` characters. -/
  go : Nat → Nat → Nat
    | 0, n => n
    | count + 1, n => if source[n]?.any p then go count (n + 1) else n

/-- A text that has been read, and the position behind it. -/
structure Read where
  text : List Char
  next : Nat
  deriving Repr

/-- The position of the angle bracket that closes a destination. -/
def closingBracket? (source : Array Char) (limit : Nat) : Nat → Nat → Option Nat
  | 0, _ => none
  | count + 1, n =>
    if limit ≤ n then none
    else
      match source[n]? with
      | none | some '\n' | some '<' => none
      | some '>' => some n
      | some '\\' => closingBracket? source limit count (if n + 1 < limit then n + 2 else n + 1)
      | some _ => closingBracket? source limit count (n + 1)

/-- The end of a destination without angle brackets, in which parentheses are balanced and no more
than 32 deep. -/
def bareEnd? (source : Array Char) (limit : Nat) : Nat → Nat → Nat → Option Nat
  | 0, depth, n => if depth = 0 then some n else none
  | count + 1, depth, n =>
    let stop := if depth = 0 then some n else none
    if limit ≤ n then stop
    else
      match source[n]? with
      | none => stop
      | some '\\' =>
        if n + 1 < limit then
          if source[n + 1]? = some ' ' then stop else bareEnd? source limit count depth (n + 2)
        else bareEnd? source limit count depth (n + 1)
      | some '(' => if 32 ≤ depth then none else bareEnd? source limit count (depth + 1) (n + 1)
      | some ')' => if depth = 0 then some n else bareEnd? source limit count (depth - 1) (n + 1)
      | some c =>
        if c.toNat ≤ 0x20 || c.toNat = 0x7f then stop else bareEnd? source limit count depth (n + 1)

/-- Read a destination. -/
def readDestination? (source : Array Char) (first limit : Nat) : Option Read :=
  if source[first]? = some '<' then
    (closingBracket? source limit (limit - first) (first + 1)).map fun last =>
      ⟨unescape (slice source (first + 1) last), last + 1⟩
  else
    match bareEnd? source limit (limit - first) 0 first with
    | none => none
    | some last => if last = first then none else some ⟨unescape (slice source first last), last⟩

/-- How far reading a title has come. -/
inductive TitleRead where
  | failed
  /-- The limit is reached before the closing mark; what has been read so far counts. -/
  | unfinished (mark : Char) (text : List Char)
  | done (read : Read)
  deriving Repr

/-- Read a title from behind its opening mark, with the part that earlier lines hold. -/
def resumeTitle (mark : Char) (earlier : List Char) (source : Array Char) (first limit : Nat) :
    TitleRead :=
  go (limit - first) first
where
  /-- Look at no more than `count` characters. -/
  go : Nat → Nat → TitleRead
    | 0, n => .unfinished mark (earlier ++ unescape (slice source first n))
    | count + 1, n =>
      if limit ≤ n then .unfinished mark (earlier ++ unescape (slice source first n))
      else
        match source[n]? with
        | none => .unfinished mark (earlier ++ unescape (slice source first n))
        | some c =>
          if c = mark then .done ⟨earlier ++ unescape (slice source first n), n + 1⟩
          else if c = '(' ∧ mark = ')' then .failed
          else if c = '\\' ∧ n + 1 < limit then go count (n + 2)
          else go count (n + 1)

/-- Read a title between double quotes, single quotes or parentheses. -/
def readTitle (source : Array Char) (first limit : Nat) : TitleRead :=
  if limit ≤ first then .failed
  else
    match source[first]? with
    | some '\x22' => resumeTitle '\x22' [] source (first + 1) limit
    | some '\x27' => resumeTitle '\x27' [] source (first + 1) limit
    | some '(' => resumeTitle ')' [] source (first + 1) limit
    | _ => .failed

/-- White space in a row as one space. -/
def collapseSpace : List Char → List Char
  | [] => []
  | c :: cs =>
    if isSpace c then
      if cs.head?.any isSpace then collapseSpace cs else ' ' :: collapseSpace cs
    else c :: collapseSpace cs

/-- The form of a label in which it is looked up. -/
def labelKey (label : List Char) : List Char := foldCase (collapseSpace (trim label))

/-- Where a label leads to. -/
structure Reference where
  url : List Char
  title : List Char
  deriving Repr

/-- What the whole document defines: where labels lead to, the first definition of each, and the
labels of footnotes. -/
structure Definitions where
  references : List (List Char × Reference) := []
  footnotes : List (List Char) := []
  deriving Repr, Inhabited

namespace Definitions

/-- Where a label leads to. -/
def lookup (definitions : Definitions) (label : List Char) : Option Reference :=
  definitions.references.lookup (labelKey label)

/-- Add a definition; an earlier one of the same label stays. -/
def define (definitions : Definitions) (key : List Char) (reference : Reference) : Definitions :=
  if (definitions.references.lookup key).isSome then definitions
  else { definitions with references := definitions.references ++ [(key, reference)] }

end Definitions

end Folio.Markdown
