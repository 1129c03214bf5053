import Folio.Book.PrintPage
import Folio.Proofs.Page.HeadingText

/-!
# The print page as a list of renderings

A rendering is a page with the context it is rendered in and the counter that stands in front of it.
The print page joins one rendering for each chapter, and the counter in front of each of them has
seen the headings of all chapters before it.
-/

namespace Folio.Book

open Folio.Anchor Folio.Page

/-- A page and what its rendering depends on. -/
structure Rendering where
  context : Context
  counter : Counter
  text : String

/-- A chapter whose path is a text. -/
def Chapter.ofText (path text : String) : Chapter := ⟨some (path.toList.map .char), text⟩

namespace Rendering

variable (renderer : Renderer) (page : Rendering)

/-- The tokens of a page that its footnotes are collected from. -/
def tokens : List Token :=
  (prepare page.context (some page.counter) (renderer.parse page.text)).1

/-- The counter behind a page. -/
def next : Counter :=
  ((prepare page.context (some page.counter) (renderer.parse page.text)).2).getD page.counter

/-- The tokens of a page that its headings are anchored in. -/
def source : List Token :=
  wrapTables (((renderer.parse page.text).map joinFenceInfo).map (Token.resolveLinks page.context))

/-- The headings of a page, not yet anchored. -/
def headings : List Heading := Page.headings (page.source renderer)

/-- The slugs that the headings of a page ask the counter for. -/
def slugs : List (Option (List Char)) := Page.slugs (page.headings renderer)

/-- The ids of the headings of a page. -/
def headingIds : List String := (Page.headings (page.tokens renderer)).filterMap Heading.id?

/-- A page as a part of the print page, with its marker. -/
def html : String :=
  pageMarker page.context.pageId ++
    (renderer.renderIn page.context (some page.counter) page.text).html

/-- The headings of a page are those of its text with their destinations resolved. -/
theorem headings_eq :
    page.headings renderer =
      (Page.headings ((renderer.parse page.text).map joinFenceInfo)).map
        (Heading.resolved page.context) := by
  rw [headings, source, headings_wrapTables]
  exact headings_map (Token.kind_resolveLinks page.context) _

/-- Every heading has an id, and they are given in order. -/
theorem headingIds_eq :
    page.headingIds renderer =
      (anchorIds page.context page.counter (page.headings renderer)).1 := by
  have hids : (Page.headings (page.tokens renderer)).map Heading.id? =
      (anchorIds page.context page.counter (page.headings renderer)).1.map some :=
    (headings_anchorHeadings page.context page.counter (page.source renderer)).1
  calc page.headingIds renderer
      = ((Page.headings (page.tokens renderer)).map Heading.id?).filterMap id := by
        rw [List.filterMap_map, Function.id_comp, headingIds]
    _ = (anchorIds page.context page.counter (page.headings renderer)).1 := by
        rw [hids, List.filterMap_map, Function.id_comp]
        exact List.filterMap_some

/-- The counter behind a page has seen the headings of the page. -/
theorem count_next (base : List Char) :
    (page.next renderer).count base =
      page.counter.count base + (page.slugs renderer).count (some base) := by
  have hnext : page.next renderer =
      (anchorIds page.context page.counter (page.headings renderer)).2 :=
    (headings_anchorHeadings page.context page.counter (page.source renderer)).2
  rw [hnext]
  exact count_anchorIds _ page.counter base

end Rendering

namespace Renderer

variable (renderer : Renderer) {counter : Counter} {chapters : List Chapter}
  {pages : List Rendering}

/-- A page of its own, rendered with a counter that has seen nothing. -/
def standalone (text : String) : Rendering := ⟨⟨none, renderer.redirects⟩, {}, text⟩

/-- The renderings of the chapters of a print page, the counter handed on from each to the next. -/
def renderings (counter : Counter) : List Chapter → Except ContextError (List Rendering)
  | [] => .ok []
  | chapter :: chapters =>
    match Context.build chapter.path renderer.redirects with
    | .error error => .error error
    | .ok context =>
      let page : Rendering := ⟨context, counter, chapter.text⟩
      (renderings (page.next renderer) chapters).map (page :: ·)

/-- The renderings of several chapters are that of the first and those of the others behind it. -/
theorem renderings_cons {chapter : Chapter}
    (h : renderer.renderings counter (chapter :: chapters) = .ok pages) :
    ∃ context others,
      Context.build chapter.path renderer.redirects = .ok context ∧
      renderer.renderings (Rendering.next renderer ⟨context, counter, chapter.text⟩) chapters =
        .ok others ∧
      pages = ⟨context, counter, chapter.text⟩ :: others := by
  rw [renderings] at h
  cases hbuild : Context.build chapter.path renderer.redirects with
  | error error =>
    simp only [hbuild] at h
    exact nomatch h
  | ok context =>
    simp only [hbuild] at h
    cases hothers : renderer.renderings
      (Rendering.next renderer ⟨context, counter, chapter.text⟩) chapters with
    | error error =>
      rw [hothers] at h
      exact nomatch h
    | ok others =>
      rw [hothers] at h
      exact ⟨context, others, rfl, hothers, (Except.ok.inj h).symm⟩

/-- The print page is made of the renderings of its chapters, with page breaks between them. -/
theorem html_renderPrintPage (counter : Counter) (chapters : List Chapter) :
    (renderer.renderPrintPage counter chapters).html =
      (renderer.renderings counter chapters).map fun pages =>
        pageBreak.intercalate (pages.map (·.html renderer)) := by
  induction chapters generalizing counter with
  | nil => rfl
  | cons chapter chapters ih =>
    cases hbuild : Context.build chapter.path renderer.redirects with
    | error error =>
      have hchapter : renderer.renderChapter counter chapter = ⟨.error error, counter, []⟩ := by
        rw [renderChapter, hbuild]
      cases chapters <;> simp [renderPrintPage, renderings, hchapter, hbuild, Except.map]
    | ok context =>
      let page : Rendering := ⟨context, counter, chapter.text⟩
      have hhtml : (renderer.renderChapter counter chapter).html = .ok (page.html renderer) := by
        rw [renderChapter, hbuild]
        rfl
      have hnext : (renderer.renderChapter counter chapter).counter = page.next renderer := by
        rw [renderChapter, hbuild]
        rfl
      cases chapters with
      | nil => simp [renderPrintPage, renderings, hhtml, hbuild, Except.map, page]
      | cons next chapters =>
        have hothers := ih (page.next renderer)
        rw [renderPrintPage, renderings]
        simp only [hhtml, hnext, hbuild, hothers]
        cases hrest : renderer.renderings (page.next renderer) (next :: chapters) with
        | error error => rfl
        | ok pages =>
          obtain ⟨context', others, -, -, rfl⟩ := renderer.renderings_cons hrest
          simp [Except.map, String.intercalate_cons_cons, page]

/-- The counter in front of a chapter has seen the headings of all chapters before it. -/
theorem count_renderings (h : renderer.renderings counter chapters = .ok pages) {i : Nat}
    {page : Rendering} (hpage : pages[i]? = some page) (base : List Char) :
    page.counter.count base =
      counter.count base + ((pages.take i).flatMap (·.slugs renderer)).count (some base) := by
  induction chapters generalizing counter pages i with
  | nil =>
    rw [← Except.ok.inj h] at hpage
    exact absurd hpage (by simp)
  | cons chapter chapters ih =>
    obtain ⟨context, others, -, hothers, rfl⟩ := renderer.renderings_cons h
    cases i with
    | zero =>
      rw [List.getElem?_cons_zero] at hpage
      rw [← Option.some.inj hpage]
      simp
    | succ i =>
      rw [List.getElem?_cons_succ] at hpage
      have hcount := ih hothers hpage
      rw [hcount, Rendering.count_next, List.take_succ_cons, List.flatMap_cons, List.count_append]
      push_cast
      omega

end Renderer

end Folio.Book
