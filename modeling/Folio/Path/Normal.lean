import Folio.Text.Blank
import Folio.Text.Search

/-!
# Book-relative paths

Paths are written with slashes, backslashes counting as slashes. `normalize` resolves the segments
against a stack: empty and `.` segments vanish, `..` removes the name before it, and a `..` with no
name before it stays, unless the path is rooted. What is left of such a climb at the front tells
that the path leaves the book.
-/

namespace Folio.Path

open Folio.Text

/-- The segment that climbs one directory up. -/
def up : List Char := ['.', '.']

/-- Resolve one more segment against the stack of segments so far, last one first. -/
def resolveStep (rooted : Bool) (stack : List (List Char)) (segment : List Char) :
    List (List Char) :=
  if segment = [] ∨ segment = ['.'] then stack
  else if segment = up then
    match stack with
    | [] => if rooted then [] else [up]
    | top :: below => if top = up then up :: top :: below else below
  else segment :: stack

/-- The segments that are left of a list of segments after resolution. -/
def resolve (rooted : Bool) (segments : List (List Char)) : List (List Char) :=
  (segments.foldl (resolveStep rooted) []).reverse

/-- The path with every backslash turned into a slash. -/
def withSlashes (path : List Char) : List Char :=
  path.map fun c => if c = '\\' then '/' else c

/-- The canonical form: resolved segments joined by slashes, without a slash in front. A slash at
the end is kept if anything stands before it. -/
def normalize (path : List Char) : List Char :=
  let slashed := withSlashes path
  let body := joinWith ['/'] (resolve (slashed.head? == some '/') (splitAt '/' slashed))
  if path.getLast? = some '/' ∧ body ≠ [] then body ++ ['/'] else body

/-- Whether a normalized path points above the book root. -/
def escapesRoot (path : List Char) : Bool :=
  path == up || (up ++ ['/']).isPrefixOf path || contains (['/'] ++ up ++ ['/']) path

/-- The path up to its last slash, without slashes at its end unless it is made of slashes only. -/
def parent (path : List Char) : List Char :=
  let head := dropEndWhile (· ≠ '/') path
  if head.all (· = '/') then head else dropEndWhile (· = '/') head

/-- A character that may stand in a URL scheme behind its first letter. -/
def isSchemeChar (c : Char) : Bool := c.isAlphanum || c = '+' || c = '.' || c = '-'

/-- Whether a target starts with a URL scheme: a letter, further scheme characters and a colon. -/
def hasScheme : List Char → Bool
  | [] => false
  | c :: cs => c.isAlpha && (cs.dropWhile isSchemeChar).head? == some ':'

end Folio.Path
