import Folio.Text.Blank
import Folio.Token.Basic

/-!
# Structural passes

Tables are wrapped in a `div` so that style sheets can let them scroll, and the words behind the
mark of a fence are joined into one class name.
-/

namespace Folio.Page

open Folio.Text

/-- The tag in front of a table. -/
def tableWrapperOpen : Token := .html "<div class=\"table-wrapper\">"

/-- The tag behind a table. -/
def tableWrapperClose : Token := .html "</div>\n"

/-- A token with the wrapper's tag that belongs beside it. -/
def wrapTable (token : Token) : List Token :=
  match token.kind with
  | .tableOpen => [tableWrapperOpen, token]
  | .tableClose => [token, tableWrapperClose]
  | _ => [token]

/-- Wrap every table of a stream. -/
def wrapTables (tokens : List Token) : List Token := tokens.flatMap wrapTable

/-- The words behind the mark of a fence as one: spaces and tabs become commas and other blanks
vanish. -/
def joinInfo (info : List Char) : List Char :=
  ((strip info).map fun c => if c = ' ' || c = '\t' then ',' else c).filter (!isBlank ·)

/-- Join the words behind the mark of a fence. -/
def joinFenceInfo (token : Token) : Token :=
  if token.kind = .fence then { token with info := .ofList (joinInfo token.info.toList) } else token

end Folio.Page
