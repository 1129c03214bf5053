import Folio.Book.Page

/-!
# The print page

The chapters of a book follow each other on one page, with a page break between neighbours. A marker
in front of each chapter carries its page id, which links from other chapters lead to. All chapters
share one counter, so the heading ids of a chapter are numbered on from those of the chapters before
it.
-/

namespace Folio.Book

open Folio.Anchor Folio.Page Folio.Text

/-- A chapter: its source path and its Markdown. -/
structure Chapter where
  path : Option (List RawUnit)
  text : String

/-- What stands between two chapters. -/
def pageBreak : String := "<div style=\"break-before: page; page-break-before: always;\"></div>"

/-- What stands in front of a chapter with a page id. -/
def pageMarker (pageId : List Char) : String := "<div id=\"" ++ .ofList pageId ++ "\"></div>"

/-- What rendering the print page gives. If a chapter has no valid path, the counter and the
warnings are those of the chapters before it. -/
structure PrintPage where
  html : Except ContextError String
  counter : Counter
  warnings : List String

namespace Renderer

/-- Render a chapter with its marker. -/
def renderChapter (renderer : Renderer) (counter : Counter) (chapter : Chapter) : PrintPage :=
  match Context.build chapter.path renderer.redirects with
  | .error error => ⟨.error error, counter, []⟩
  | .ok context =>
    let page := renderer.renderIn context (some counter) chapter.text
    ⟨.ok (pageMarker context.pageId ++ page.html), page.counter.getD counter, page.warnings⟩

/-- Render the chapters of a book as one page. -/
def renderPrintPage (renderer : Renderer) (counter : Counter) : List Chapter → PrintPage
  | [] => ⟨.ok "", counter, []⟩
  | [chapter] => renderer.renderChapter counter chapter
  | chapter :: next :: chapters =>
    let page := renderer.renderChapter counter chapter
    match page.html with
    | .error _ => page
    | .ok html =>
      let others := renderer.renderPrintPage page.counter (next :: chapters)
      { others with
          html := others.html.map (html ++ pageBreak ++ ·)
          warnings := page.warnings ++ others.warnings }

end Renderer

end Folio.Book
