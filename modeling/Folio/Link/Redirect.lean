import Folio.Page.Context
import Folio.Text.Order

/-!
# Redirects

A link on the print page is looked up in the redirect table with and without its fragment. Of
several matching entries the one with the longest normalized source counts, ties going to the
smaller source text, so the order of the table never matters.
-/

namespace Folio.Link

open Folio.Text Folio.Page

/-- The source of an entry as links are compared with it. -/
def redirectKey (entry : Redirect) : List Char :=
  lower (Path.normalize (entry.source.dropWhile (· = '/')))

/-- Whether one entry is preferred to another: by a longer key, then by a smaller source. -/
def precedes (a b : Redirect) : Bool :=
  (redirectKey b).length < (redirectKey a).length
    || (redirectKey a).length == (redirectKey b).length && inOrder a.source b.source

/-- The more specific of two entries. -/
def moreSpecific (best : Option Redirect) (entry : Redirect) : Option Redirect :=
  match best with
  | none => some entry
  | some old => if precedes old entry then some old else some entry

/-- The entry of the table that applies to a link with these spellings. -/
def applicable? (redirects : List Redirect) (spellings : List (List Char)) : Option Redirect :=
  (redirects.filter fun entry => spellings.contains (redirectKey entry)).foldl moreSpecific none

/-- What a redirected link turns into: an address of its own, or a path in the book. -/
inductive Destination where
  | address (url : List Char)
  | inBook (path : List Char)
  deriving DecidableEq, Repr

/-- Follow an entry from a link to `page`, with the fragment the link has. The target is read from
the directory of the link; a fragment of the link is kept unless the entry names one itself. -/
def follow (entry : Redirect) (page : List Char) (fragment : Option (List Char)) : Destination :=
  let external := Path.hasScheme entry.target
  let base := (dropEndWhile (· = '/') (Path.normalize (Path.parent page))).dropWhile (· = '/')
  let resolved :=
    if external then entry.target
    else if base = [] then entry.target.dropWhile (· = '/')
    else base ++ '/' :: entry.target
  let resolved :=
    match fragment with
    | some fragment =>
      if entry.source.contains '#' then resolved
      else resolved ++ (if resolved.contains '#' then '-' else '#') :: fragment
    | none => resolved
  if external then .address resolved else .inBook (Path.normalize resolved)

end Folio.Link
