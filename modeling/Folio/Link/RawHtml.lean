import Folio.Link.Resolve

/-!
# Attributes in raw HTML

Raw HTML comes in fragments, often a single tag, so its attributes are found by scanning and not by
parsing documents. The values of one attribute of one element are
changed at a time; an empty value is left alone, and the scan for an attribute never leaves its tag.
-/

namespace Folio.Link

open Folio.Text Folio.Page

/-- An attribute found behind the beginning of a tag. -/
structure AttributeMatch where
  /-- The text in front of the value, the opening quote included. -/
  lead : List Char
  value : List Char
  deriving DecidableEq, Repr

/-- The quoted value at the front of a text, if it is not empty and is closed. -/
def quotedValue? (cs : List Char) : Option (List Char) :=
  match cutAt '\x22' cs with
  | ([], _) | (_, none) => none
  | (value, some _) => some value

/-- Find the first occurrence of `opener`, an attribute's name with the opening quote, that a value
follows. -/
def findAttribute? (opener : List Char) : List Char → Option AttributeMatch
  | [] => none
  | c :: cs =>
    let value? :=
      if opener.isPrefixOf (c :: cs) then quotedValue? ((c :: cs).drop opener.length) else none
    match value? with
    | some value => some ⟨opener, value⟩
    | none =>
      if c = '>' then none
      else (findAttribute? opener cs).map fun found => { found with lead := c :: found.lead }

/-- Change the values of an attribute. The first `skip` characters belong to an occurrence that has
been written already. -/
def mapAttributeFrom (start opener : List Char) (f : List Char → List Char) :
    Nat → List Char → List Char
  | _, [] => []
  | skip + 1, _ :: cs => mapAttributeFrom start opener f skip cs
  | 0, c :: cs =>
    let found? :=
      if start.isPrefixOf (c :: cs) then findAttribute? opener ((c :: cs).drop start.length)
      else none
    match found? with
    | none => c :: mapAttributeFrom start opener f 0 cs
    | some found =>
      start ++ found.lead ++ f found.value ++
        '\x22' :: mapAttributeFrom start opener f
          (start.length + found.lead.length + found.value.length) cs

/-- Change the values of an attribute in the tags that begin with `start`. -/
def mapAttribute (start opener : List Char) (f : List Char → List Char)
    (html : List Char) : List Char :=
  mapAttributeFrom start opener f 0 html

/-- Resolve image sources, anchor names and link destinations in raw HTML. -/
def resolveHtml (context : Context) (html : List Char) : List Char :=
  let html := mapAttribute "<img ".toList "src=\"".toList (resolveResource context) html
  let html := mapAttribute "<a ".toList "name=\"".toList (resolveName context) html
  mapAttribute "<a ".toList "href=\"".toList (resolveLink context) html

end Folio.Link
