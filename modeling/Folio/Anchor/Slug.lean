import Folio.Text.Alphanumeric
import Folio.Text.Blank
import Folio.Text.Search

/-!
# Slugs

A slug is the part of a heading's text that is safe in an element id. Tags and entities are dropped
first, then blanks and number signs in front, and what remains is mapped character by character.
-/

namespace Folio.Anchor

open Folio.Text

/-- The image of a character in an id: alphanumerics, `_` and `-` stay, with ASCII letters in lower
case, blanks become hyphens and the rest vanishes. -/
def idChar? (c : Char) : Option Char :=
  if isAlphanumeric c || c = '_' || c = '-' then some c.toLower
  else if isBlank c then some '-'
  else none

/-- Map a text onto the characters that are safe in an id. -/
def normalizeId (cs : List Char) : List Char := cs.filterMap idChar?

/-- Drop tags that open and close on one line. `tag?` holds the text since an open angle bracket,
last character first. -/
def dropTagsFrom (tag? : Option (List Char)) : List Char → List Char
  | [] => (tag?.getD []).reverse
  | c :: cs =>
    match tag? with
    | none => if c = '<' then dropTagsFrom (some [c]) cs else c :: dropTagsFrom none cs
    | some tag =>
      if c = '>' then dropTagsFrom none cs
      else if c = '\n' then tag.reverse ++ c :: dropTagsFrom none cs
      else dropTagsFrom (some (c :: tag)) cs

/-- Drop the tags of a text. -/
def dropTags (cs : List Char) : List Char := dropTagsFrom none cs

/-- The entities that heading text is written with, in the order in which they are dropped. -/
def entities : List (List Char) :=
  ["&lt;".toList, "&gt;".toList, "&amp;".toList, "&#39;".toList, "&quot;".toList]

/-- Drop the entities, one kind after the other. -/
def dropEntities (cs : List Char) : List Char :=
  entities.foldl (fun cs entity => replaceAll entity [] cs) cs

/-- The slug of a heading's content, which may still carry markup and number signs. -/
def slug (content : List Char) : List Char :=
  normalizeId (strip ((strip (dropEntities (dropTags content))).dropWhile (· = '#')))

end Folio.Anchor
