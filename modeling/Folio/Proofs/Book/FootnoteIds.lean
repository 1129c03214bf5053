import Folio.Proofs.Book.Rendering
import Folio.Proofs.Footnote.References

/-!
# Footnote ids on the print page

Footnotes are collected chapter by chapter, and the ids that the collector gives to superscripts and
list items do not begin with the page id. On the print page they keep chapters apart exactly as far
as the names of the footnotes do.
-/

namespace Folio.Book

open Folio.Footnote

variable (renderer : Renderer)

namespace Rendering

/-- The names that a page refers to footnotes by, in order. -/
def references (page : Rendering) : List String := referenceNames (page.tokens renderer)

/-- The footnotes collected on a page. -/
def collector (page : Rendering) : Collector := (Collector.collect {} (page.tokens renderer)).1

/-- The references to footnotes as the superscripts of a page show them. -/
def shown (page : Rendering) : List Usage := (countAll [] (page.references renderer)).1

/-- The ids of the superscripts of a page and those of the items of its footnote list. -/
def footnoteIds (page : Rendering) : List String :=
  ((page.shown renderer).map fun usage => referenceId usage.name usage.count) ++
    (page.collector renderer).listed.map fun item => itemId item.2.name

variable {page other : Rendering}

/-- The names counted on a page are those that it refers to. -/
theorem mem_names_collector {name : String} :
    name ∈ (page.collector renderer).usages.map Usage.name ↔ name ∈ page.references renderer :=
  mem_names_usages

/-- Every footnote id is made of a name that the page refers to. -/
theorem exists_of_mem_footnoteIds {id : String} (h : id ∈ page.footnoteIds renderer) :
    ∃ name ∈ page.references renderer, id = itemId name ∨ ∃ n, id = referenceId name n := by
  rcases List.mem_append.mp h with hshown | hlisted
  · obtain ⟨usage, husage, rfl⟩ := List.mem_map.mp hshown
    exact ⟨usage.name, name_mem_of_mem_countAll _ _ husage, Or.inr ⟨usage.count, rfl⟩⟩
  · obtain ⟨item, hitem, rfl⟩ := List.mem_map.mp hlisted
    have hname := (Collector.name_mem_of_mem_listed hitem).2
    exact ⟨item.2.name, (mem_names_collector renderer).mp hname, Or.inl rfl⟩

/-- Every name that a page refers to has a first superscript. -/
theorem referenceId_mem_footnoteIds {name : String} (h : name ∈ page.references renderer) :
    referenceId name 1 ∈ page.footnoteIds renderer := by
  obtain ⟨usage, husage, rfl, hcount⟩ := exists_first_of_mem _ h
  have hmem : referenceId usage.name usage.count ∈ page.footnoteIds renderer :=
    List.mem_append_left _ (List.mem_map_of_mem husage)
  rwa [hcount] at hmem

/-- Two pages share a footnote id exactly if they refer to footnotes by a common name. -/
theorem disjoint_footnoteIds :
    (page.footnoteIds renderer).Disjoint (other.footnoteIds renderer) ↔
      (page.references renderer).Disjoint (other.references renderer) := by
  constructor
  · intro hids name hname hother
    exact hids (referenceId_mem_footnoteIds renderer hname)
      (referenceId_mem_footnoteIds renderer hother)
  · intro hnames id hid hother
    obtain ⟨name, hname, hspelled⟩ := exists_of_mem_footnoteIds renderer hid
    obtain ⟨second, hsecond, hspelled'⟩ := exists_of_mem_footnoteIds renderer hother
    have hsame : name = second := by
      rcases hspelled with rfl | ⟨m, rfl⟩
      · rcases hspelled' with heq | ⟨n, heq⟩
        · exact itemId_inj.mp heq
        · exact absurd heq.symm referenceId_ne_itemId
      · rcases hspelled' with heq | ⟨n, heq⟩
        · exact absurd heq referenceId_ne_itemId
        · exact (referenceId_inj.mp heq).1
    rw [← hsame] at hsecond
    exact hnames hname hsecond

end Rendering

/-- The footnote ids of the chapters of a print page are disjoint exactly if the names are that the
chapters refer to footnotes by. The ids are those of the superscripts that stand where references
have been and those of the listed items. -/
theorem pairwise_disjoint_footnoteIds {chapters : List Chapter} {pages : List Rendering}
    (hpages : renderer.renderings {} chapters = .ok pages) :
    (renderer.renderPrintPage {} chapters).html =
      .ok (pageBreak.intercalate (pages.map (·.html renderer))) ∧
    (∀ page ∈ pages, superscripts (page.tokens renderer) (linkAll [] (page.tokens renderer)).1 =
      (page.shown renderer).map superscript) ∧
    ((pages.Pairwise fun page other =>
        (page.footnoteIds renderer).Disjoint (other.footnoteIds renderer)) ↔
      pages.Pairwise fun page other =>
        (page.references renderer).Disjoint (other.references renderer)) := by
  refine ⟨?_, ?_, ?_⟩
  · rw [Renderer.html_renderPrintPage, hpages]
    rfl
  · intro page _
    exact (linkAll_eq_countAll [] (page.tokens renderer)).1
  · exact List.Pairwise.iff fun _ _ => Rendering.disjoint_footnoteIds renderer

/-- Two chapters that name their footnotes differently. -/
theorem pairwise_disjoint_footnoteIds_notes :
    let book := Renderer.markdown {} []
    let first : Rendering := ⟨⟨some "a.md".toList, []⟩, {}, "One[^a].\n\n[^a]: Note.\n"⟩
    let second : Rendering :=
      ⟨⟨some "b.md".toList, []⟩, first.next book, "Two[^b].\n\n[^b]: Note.\n"⟩
    book.renderings {} [.ofText "a.md" first.text, .ofText "b.md" second.text] =
      .ok [first, second] ∧
    [first, second].Pairwise fun page other =>
      (page.footnoteIds book).Disjoint (other.footnoteIds book) := by
  intro book first second
  have hpages : book.renderings {} [.ofText "a.md" first.text, .ofText "b.md" second.text] =
      .ok [first, second] := rfl
  have hfirst : first.references book = ["a"] := by decide +kernel
  have hsecond : second.references book = ["b"] := by decide +kernel
  refine ⟨hpages, (pairwise_disjoint_footnoteIds book hpages).2.2.mpr ?_⟩
  rw [List.pairwise_pair, hfirst, hsecond]
  simp

/-- Two chapters with a footnote of one name: the ids of its superscript and of its list item are
on the print page twice, while the page ids of the chapters differ. -/
theorem footnoteIds_repeated :
    let book := Renderer.markdown {} []
    let text := "Text[^1].\n\n[^1]: Note.\n"
    let ids (pages : List Rendering) := pages.map fun page =>
      (page.context.pageId, page.footnoteIds book)
    (book.renderings {} [.ofText "a.md" text, .ofText "b.md" text]).map ids =
      .ok [("a".toList, ["fr-1-1", "footnote-1"]), ("b".toList, ["fr-1-1", "footnote-1"])] := by
  decide +kernel

end Folio.Book
