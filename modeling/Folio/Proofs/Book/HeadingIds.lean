import Folio.Proofs.Book.Rendering
import Folio.Proofs.Link.Resolve

/-!
# Heading ids on the print page

On the print page the ids of a chapter begin with its page id, and links within the chapter are
rewritten accordingly. Behind the page id stands the id that the heading has when its chapter is
rendered on its own, unless an earlier chapter has a heading with the same slug: the chapters share
one counter, so the heading is numbered on.
-/

namespace Folio.Book

open Folio.Anchor Folio.Link Folio.Page

variable (renderer : Renderer)

namespace Rendering

variable {page : Rendering} {j : Nat} {base : List Char}

/-- The id of a heading is its slug, numbered by the headings with it before the page and on it. -/
theorem getElem?_headingIds (hbase : (page.slugs renderer)[j]? = some (some base)) :
    (page.headingIds renderer)[j]? =
      some (page.context.spell
        (numbered base
          (page.counter.count base + ((page.slugs renderer).take j).count (some base)))) := by
  rw [slugs, Page.slugs, List.getElem?_map, Option.map_eq_some_iff] at hbase
  obtain ⟨heading, hheading, hslug⟩ := hbase
  have hearlier : (page.slugs renderer).take j = Page.slugs ((page.headings renderer).take j) :=
    List.map_take.symm
  rw [headingIds_eq, hearlier]
  exact getElem?_anchorIds_of_slug? hheading hslug page.counter

/-- A slug that a heading asks for holds no number sign. -/
theorem mark_not_mem_of_slugs (hbase : (page.slugs renderer)[j]? = some (some base)) :
    '#' ∉ base := by
  rw [slugs, Page.slugs, List.getElem?_map, Option.map_eq_some_iff] at hbase
  obtain ⟨heading, -, hslug⟩ := hbase
  exact Heading.mark_not_mem_slug? hslug

/-- On the print page and on a page of its own, headings ask for the same slugs if their raw HTML
consists of plain tags. -/
theorem slugs_standalone (hplain : ∀ heading ∈ page.headings renderer, heading.HasPlainTags)
    (halone : ∀ heading ∈ (renderer.standalone page.text).headings renderer,
      heading.HasPlainTags) :
    page.slugs renderer = (renderer.standalone page.text).slugs renderer := by
  rw [headings_eq, List.forall_mem_map] at hplain halone
  rw [slugs, slugs, headings_eq, headings_eq, Page.slugs, Page.slugs, List.map_map, List.map_map]
  apply List.map_congr_left
  intro heading hheading
  exact Heading.slug?_resolved_congr (hplain heading hheading) (halone heading hheading)

end Rendering

/-- On a page of its own an id is a slug with the number of headings with it before the heading. -/
theorem getElem?_headingIds_standalone {text : String} {j : Nat} {base : List Char}
    (hbase : ((renderer.standalone text).slugs renderer)[j]? = some (some base)) :
    ((renderer.standalone text).headingIds renderer)[j]? =
      some (String.ofList (numbered base
        ((((renderer.standalone text).slugs renderer).take j).count (some base)))) := by
  have hcount : (renderer.standalone text).counter.count base = 0 := count_empty base
  rw [Rendering.getElem?_headingIds renderer hbase, hcount, Int.zero_add]
  rfl

variable {chapters : List Chapter} {pages : List Rendering} {i : Nat} {page : Rendering}

/-- On the print page the number goes on from the chapters before, and the page id stands in
front. -/
theorem getElem?_headingIds_print (hpages : renderer.renderings {} chapters = .ok pages)
    (hpage : pages[i]? = some page) (hid : page.context.pageId ≠ []) {j : Nat} {base : List Char}
    (hbase : (page.slugs renderer)[j]? = some (some base)) :
    (page.headingIds renderer)[j]? =
      some (String.ofList (page.context.pageId ++ '-' ::
        numbered base ((((pages.take i).flatMap (·.slugs renderer)).count (some base) +
          ((page.slugs renderer).take j).count (some base) : Nat)))) := by
  have hcount := renderer.count_renderings hpages hpage base
  rw [count_empty, Int.zero_add] at hcount
  rw [Rendering.getElem?_headingIds renderer hbase, hcount, Context.spell, if_neg hid]
  push_cast
  rfl

/-- Whether a heading of the print page has the id that links within its chapter expect depends on
the chapters before it and on nothing else, provided that its chapter asks for the same slugs as on
a page of its own; it does so if the raw HTML of its headings consists of plain tags. -/
theorem headingIds_standalone (hpages : renderer.renderings {} chapters = .ok pages)
    (hpage : pages[i]? = some page) (hid : page.context.pageId ≠ []) :
    let alone := renderer.standalone page.text
    (renderer.renderPrintPage {} chapters).html =
      .ok (pageBreak.intercalate (pages.map (·.html renderer))) ∧
    ((∀ heading ∈ page.headings renderer ++ alone.headings renderer, heading.HasPlainTags) →
      page.slugs renderer = alone.slugs renderer) ∧
    (page.slugs renderer = alone.slugs renderer →
      ∀ (j : Nat) (base : List Char), (page.slugs renderer)[j]? = some (some base) →
        ∃ s, (alone.headingIds renderer)[j]? = some (String.ofList s) ∧
          resolveLink page.context ('#' :: s) = '#' :: (page.context.pageId ++ '-' :: s) ∧
          ((page.headingIds renderer)[j]? = some (String.ofList (page.context.pageId ++ '-' :: s)) ↔
            ∀ earlier ∈ pages.take i, some base ∉ earlier.slugs renderer)) := by
  intro alone
  refine ⟨?_, ?_, ?_⟩
  · rw [Renderer.html_renderPrintPage, hpages]
    rfl
  · intro hplain
    rw [List.forall_mem_append] at hplain
    exact Rendering.slugs_standalone renderer hplain.1 hplain.2
  · intro hslugs j base hbase
    have halone : (alone.headingIds renderer)[j]? =
        some (String.ofList
          (numbered base (((page.slugs renderer).take j).count (some base)))) := by
      rw [hslugs] at hbase ⊢
      exact getElem?_headingIds_standalone renderer hbase
    have hprint := getElem?_headingIds_print renderer hpages hpage hid hbase
    have hmark : '#' ∉ base := Rendering.mark_not_mem_of_slugs renderer hbase
    have hprinted : page.context.isPrint = true := isPrint_of_pageId hid
    refine ⟨_, halone, resolveLink_ownFragment hprinted (mark_not_mem_numbered hmark _), ?_⟩
    -- the two ids differ in their numbers only, by the headings of the chapters before
    have hbefore : ((pages.take i).flatMap (·.slugs renderer)).count (some base) = 0 ↔
        ∀ earlier ∈ pages.take i, some base ∉ earlier.slugs renderer := by
      rw [List.count_eq_zero, List.mem_flatMap]
      simp only [not_exists, not_and]
    rw [hprint, Option.some_inj, String.ofList_inj, List.append_cancel_left_eq, List.cons.injEq,
      numbered_inj, ← hbefore]
    constructor
    · rintro ⟨-, hnumber⟩
      omega
    · intro hzero
      exact ⟨rfl, by omega⟩

/-- The second of two headings of a chapter, behind a chapter without them. -/
theorem headingIds_standalone_setup :
    let book := Renderer.markdown {} []
    let first : Rendering := ⟨⟨some "a.md".toList, []⟩, {}, "# Intro\n"⟩
    let page : Rendering := ⟨⟨some "b.md".toList, []⟩, first.next book, "# Setup\n\n# Setup\n"⟩
    book.renderings {} [.ofText "a.md" first.text, .ofText "b.md" page.text] = .ok [first, page] ∧
    ∃ s, ((book.standalone page.text).headingIds book)[1]? = some (String.ofList s) ∧
      resolveLink page.context ('#' :: s) = '#' :: ("b".toList ++ '-' :: s) ∧
      (page.headingIds book)[1]? = some (String.ofList ("b".toList ++ '-' :: s)) := by
  intro book first page
  have hpages : book.renderings {} [.ofText "a.md" first.text, .ofText "b.md" page.text] =
      .ok [first, page] := rfl
  have hslugs : page.slugs book = (book.standalone page.text).slugs book := by decide +kernel
  have hbase : (page.slugs book)[1]? = some (some "setup".toList) := by decide +kernel
  have hbefore : ∀ earlier ∈ [first], some "setup".toList ∉ earlier.slugs book := by decide +kernel
  obtain ⟨-, -, hids⟩ := headingIds_standalone book hpages (i := 1) rfl (by decide)
  obtain ⟨s, halone, hlink, hprint⟩ := hids hslugs 1 _ hbase
  exact ⟨hpages, s, halone, hlink, hprint.mpr hbefore⟩

/-- Behind a chapter with the same heading, the id of a heading has a number that links within its
chapter do not have. And in raw HTML, an angle bracket within an attribute ends the tag for the
slug, which then depends on the destination that is left behind it. -/
theorem headingIds_numbered_on :
    let book := Renderer.markdown {} []
    let ids (pages : List Rendering) := pages.map fun page =>
      (page.context.pageId, (book.standalone page.text).headingIds book, page.headingIds book)
    (book.renderings {} [.ofText "a.md" "# Setup\n", .ofText "b.md" "# Setup\n"]).map ids =
      .ok [("a".toList, ["setup"], ["a-setup"]), ("b".toList, ["setup"], ["b-setup-1"])] ∧
    (book.renderings {} [.ofText "b.md" "# <a href=\x22x>y.md\x22>T</a>\n"]).map ids =
      .ok [("b".toList, ["yhtmlt"], ["b-yt"])] := by
  decide +kernel

end Folio.Book
