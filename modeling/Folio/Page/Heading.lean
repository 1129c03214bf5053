import Folio.Anchor.Counter
import Folio.Page.Context
import Folio.Text.Escape
import Folio.Token.Basic

/-!
# Heading anchors

Headings get an id and their text becomes a link to it. An id that its attributes give is kept; any
other is issued by the counter and, on the print page, begins with the page id.
-/

namespace Folio.Page

open Folio.Anchor Folio.Text

/-- What a child of a heading adds to the text that the id is made of. -/
def headingPart (child : Token) : List Char :=
  match child.kind with
  | .text | .codeInline => escapeHtml child.content.toList
  | .htmlInline => child.content.toList
  | .softBreak | .hardBreak => [' ']
  | _ => []

/-- The content of a heading as the text that its id is made of. -/
def headingText (inline : Token) : List Char := inline.childList.flatMap headingPart

/-- The id of a heading and the counter behind it. -/
def anchorId (context : Context) (counter : Counter) (heading inline : Token) :
    String × Counter :=
  match heading.attrs.get? "id" with
  | some given => (given.toText, counter)
  | none =>
    let (id, counter) := issue counter (headingText inline)
    (.ofList (if context.pageId = [] then id else context.pageId ++ '-' :: id), counter)

/-- The link from a heading to itself. -/
def selfLink (id : String) : Token :=
  .inlineHtml ("<a class=\"header\" href=\"#" ++ escapedHtml id ++ "\">")

/-- A heading with its id. -/
def withId (heading : Token) (id : String) : Token :=
  { heading with attrs := heading.attrs.set "id" (.text id) }

/-- The text of a heading as a link to its id. -/
def withSelfLink (inline : Token) (id : String) : Token :=
  { inline with children := some (selfLink id :: inline.childList ++ [.inlineHtml "</a>"]) }

/-- Anchor the headings of a stream. A heading counts if an inline token follows it; any other token
that follows is passed over with it. -/
def anchorHeadings (context : Context) (counter : Counter) : List Token → List Token × Counter
  | [] => ([], counter)
  | token :: rest =>
    if token.kind = .headingOpen then
      match rest with
      | [] => ([token], counter)
      | next :: rest =>
        if next.kind = .inline then
          let (id, counter) := anchorId context counter token next
          let (rest, counter) := anchorHeadings context counter rest
          (withId token id :: withSelfLink next id :: rest, counter)
        else
          let (rest, counter) := anchorHeadings context counter rest
          (token :: next :: rest, counter)
    else
      let (rest, counter) := anchorHeadings context counter rest
      (token :: rest, counter)

end Folio.Page
