import Folio.Anchor.Counter
import Folio.Footnote.Appendix
import Folio.Link.Tokens
import Folio.Markdown.Document
import Folio.Page.Heading
import Folio.Page.Structure
import Folio.Token.Html

/-!
# Pages

A page is parsed into tokens, the passes change the tokens one after the other, and the result is
serialized with the footnote list behind it. Footnotes are collected last, so that their bodies have
gone through all other passes. Parser and serializer are parameters; nothing is known about them
here.
-/

namespace Folio.Book

open Folio.Anchor Folio.Page Folio.Text

/-- How text becomes tokens and tokens become HTML, and the redirect table of the book. -/
structure Renderer where
  parse : String → List Token
  serialize : List Token → String
  redirects : List Redirect

/-- The renderer of Markdown. -/
def Renderer.markdown (extensions : Markdown.Extensions) (redirects : List Redirect) : Renderer :=
  { parse := Markdown.parse extensions, serialize := Token.serialize, redirects }

/-- A rendered page. -/
structure Rendered where
  html : String
  /-- The counter behind the page, if there is one. -/
  counter : Option Counter
  warnings : List String

/-- The passes before footnotes are collected. Headings are anchored only with a counter. -/
def prepare (context : Context) (counter : Option Counter) (tokens : List Token) :
    List Token × Option Counter :=
  let tokens := wrapTables ((tokens.map joinFenceInfo).map (Token.resolveLinks context))
  match counter with
  | none => (tokens, none)
  | some counter =>
    let (tokens, counter) := anchorHeadings context counter tokens
    (tokens, some counter)

namespace Renderer

/-- Render a page in a context. -/
def renderIn (renderer : Renderer) (context : Context) (counter : Option Counter)
    (text : String) : Rendered :=
  let (tokens, counter) := prepare context counter (renderer.parse text)
  let (collector, body) := Footnote.Collector.collect {} tokens
  let appendix := collector.appendix (.ofList context.pageId) renderer.serialize
  let warnings := collector.warnings ++ collector.unreferencedWarnings
  { html := renderer.serialize body ++ appendix, counter
    warnings := warnings.map (·.message context.displayPath) }

/-- Render a page; without a path it is a page of its own. -/
def render (renderer : Renderer) (path : Option (List RawUnit)) (counter : Option Counter)
    (text : String) : Except ContextError Rendered :=
  (Context.build path renderer.redirects).map fun context => renderer.renderIn context counter text

end Renderer

end Folio.Book
