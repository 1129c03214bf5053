import Folio.Path.Anchor
import Folio.Text.Quoted

/-!
# Render contexts

A context tells how destinations are resolved in one rendering: on a page of its own, or as a
chapter of the print page with a source path and a redirect table.
-/

namespace Folio.Page

open Folio.Text

/-- An entry of the redirect table: a moved path, possibly with a fragment, and its replacement. -/
structure Redirect where
  source : List Char
  target : List Char
  deriving DecidableEq, Repr

/-- What decides how destinations are resolved. -/
structure Context where
  /-- The source path of the chapter on the print page; none on a page of its own. -/
  path : Option (List Char) := none
  /-- The redirect table, consulted on the print page only. -/
  redirects : List Redirect := []
  deriving Repr

/-- Why no context can be built. -/
inductive ContextError where
  /-- The page path holds a lone surrogate. -/
  | pathNotText (path : List RawUnit)
  deriving DecidableEq, Repr

/-- The wording of a context error. -/
def ContextError.message : ContextError → String
  | .pathNotText path => "Page path " ++ quoteUnits path ++ " is not valid UTF-8."

namespace Context

/-- Build a context, refusing page paths that are not text. -/
def build (path : Option (List RawUnit)) (redirects : List Redirect) :
    Except ContextError Context :=
  match path with
  | none => .ok ⟨none, redirects⟩
  | some units =>
    match chars? units with
    | some cs => .ok ⟨some cs, redirects⟩
    | none => .error (.pathNotText units)

/-- Whether the page is rendered for the print page. -/
def isPrint (context : Context) : Bool := context.path.isSome

/-- The name that every anchor of the chapter begins with; empty on a page of its own. -/
def pageId (context : Context) : List Char :=
  match context.path with
  | none => []
  | some path => Path.pageId path

/-- The directory of the chapter with a slash behind it, or nothing. -/
def basePrefix (context : Context) : List Char :=
  match context.path with
  | none => []
  | some path =>
    match Path.parent path with
    | [] => []
    | dir => dir ++ ['/']

/-- The page path as diagnostics show it. -/
def displayPath (context : Context) : String :=
  match context.path with
  | none | some [] => "<unknown>"
  | some path => .ofList path

end Context

end Folio.Page
