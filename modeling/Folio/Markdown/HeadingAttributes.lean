import Folio.Text.Search
import Folio.Text.Blank
import Folio.Token.Basic

/-!
# Attributes of headings

A heading may end with a block of attributes in braces. `liftAttributes` takes the block out of the
text and sets the attributes on the tag. It works with any reader of attribute blocks: a block that
the reader refuses, or does not read to its end, stays in the text and sets nothing.
-/

namespace Folio.Markdown

open Folio.Text

/-- Reads a block of attributes: the position that reading ends at, and the attributes in order. -/
abbrev AttributeReader := List Char → Option (Nat × List (String × String))

/-- Whether a character may stand between the braces of a block. -/
def isInsideBlock (c : Char) : Bool := c ≠ '{' && c ≠ '}' && c ≠ '\n'

/-- The block in braces at the end of a text, blanks behind it aside, and the text before it without
blanks at its end. -/
def splitBlock? (content : List Char) : Option (List Char × List Char) :=
  match (stripEnd content).reverse with
  | '}' :: before =>
    match before.dropWhile isInsideBlock with
    | '{' :: rest =>
      some (stripEnd rest.reverse, '{' :: (before.takeWhile isInsideBlock).reverse ++ ['}'])
    | _ => none
  | _ => none

/-- The text of a heading without its block, and the attributes that the block sets. -/
def liftBlock? (read? : AttributeReader) (content : String) :
    Option (String × List (String × String)) :=
  match splitBlock? content.toList with
  | none => none
  | some (text, block) =>
    match read? block with
    | none => none
    | some (n, attributes) =>
      if strip ((block.drop n).dropWhile (· = '}')) = [] then some (.ofList text, attributes)
      else none

/-- Add attributes to those of a tag. Classes are appended to the classes that are there; any other
attribute is set. -/
def addAttributes (attrs : Token.Attributes) (attributes : List (String × String)) :
    Token.Attributes :=
  attributes.foldl (fun attrs (name, value) =>
    if name = "class" then attrs.addWord name value else attrs.set name (.text value)) attrs

/-- The text of a token behind the opening tag of a heading. -/
def liftedContent (read? : AttributeReader) (content : String) : String :=
  ((liftBlock? read? content).map (·.1)).getD content

/-- The attributes of the opening tag of a heading, with the token behind it. -/
def liftedAttributes (read? : AttributeReader) (heading : Token) (next : Option Token) :
    Token.Attributes :=
  match next.bind fun next => liftBlock? read? next.content with
  | some (_, attributes) => addAttributes heading.attrs attributes
  | none => heading.attrs

/-- Lift attributes, where `behindHeading` tells whether the opening tag of a heading comes before.
-/
def liftFrom (read? : AttributeReader) (behindHeading : Bool) : List Token → List Token
  | [] => []
  | token :: rest =>
    let isHeading : Bool := token.kind = .headingOpen
    { token with
        content := if behindHeading then liftedContent read? token.content else token.content
        attrs := if isHeading then liftedAttributes read? token rest.head? else token.attrs } ::
      liftFrom read? isHeading rest

/-- Take the blocks of attributes out of all headings and set the attributes on their tags. -/
def liftAttributes (read? : AttributeReader) (tokens : List Token) : List Token :=
  liftFrom read? false tokens

end Folio.Markdown
