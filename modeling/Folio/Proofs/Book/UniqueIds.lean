import Mathlib.Data.List.Nodup
import Mathlib.Data.List.Perm.Basic
import Mathlib.Data.List.ReduceOption
import Folio.Proofs.Anchor.Issued
import Folio.Proofs.Book.Rendering

/-!
# Ids that lead to one place

Markers and headings share the name space of the print page. Their ids are pairwise different as
long as no heading has the id of a marker and no two headings clash; nothing in the way ids are made
keeps either from happening.
-/

namespace Folio.Page

open Folio.Anchor

/-- Headings without ids of their own get the ids that the counter hands out, behind the page id. -/
theorem anchorIds_eq_issuedFrom {context : Context} (hid : context.pageId ≠ []) {hs : List Heading}
    (hown : none ∉ slugs hs) {counter : Counter} {seen : List (List Char)}
    (hseen : ∀ base, counter.count base = seen.count base) :
    (anchorIds context counter hs).1 =
      (issuedFrom seen ((slugs hs).reduceOption.map (context.pageId, ·))).map fun issued =>
        String.ofList issued.id := by
  induction hs generalizing counter seen with
  | nil => rfl
  | cons heading rest ih =>
    have hslugs : slugs (heading :: rest) = heading.slug? :: slugs rest := rfl
    rw [hslugs, List.mem_cons, not_or] at hown
    obtain ⟨base, hbase⟩ := Option.ne_none_iff_exists'.mp (Ne.symm hown.1)
    obtain ⟨hfirst, hnext⟩ := anchorId_of_seen context hbase hseen
    have hspelled : context.spell (numbered base (seen.count base)) =
        String.ofList (Issued.id ⟨context.pageId, base, seen.count base⟩) := by
      rw [Context.spell, if_neg hid]
      rfl
    rw [anchorIds, hslugs, hbase, List.reduceOption_cons_of_some, List.map_cons, issuedFrom,
      List.map_cons, hfirst, hspelled, ih hown.2 hnext]

end Folio.Page

namespace Folio.Book

open Folio.Anchor Folio.Page

variable (renderer : Renderer)

namespace Rendering

variable (page : Rendering)

/-- The ids that links can lead to: that of the marker and those of the headings. -/
def anchors : List String := String.ofList page.context.pageId :: page.headingIds renderer

/-- The slugs that a page asks the counter for, each behind the page id. -/
def marks : List (List Char × List Char) :=
  (page.slugs renderer).reduceOption.map (page.context.pageId, ·)

/-- A page raises the number of a slug by its headings with the slug. -/
theorem count_marks (base : List Char) :
    ((page.marks renderer).map Prod.snd).count base = (page.slugs renderer).count (some base) := by
  have hsnd : (page.marks renderer).map Prod.snd = (page.slugs renderer).reduceOption := by
    rw [marks, List.map_map]
    exact List.map_id _
  rw [hsnd, List.reduceOption, List.count_filterMap]
  rfl

end Rendering

/-- The ids that the headings of several pages get from one counter. -/
def issuedIds (pages : List Rendering) : List Issued :=
  issuedFrom [] (pages.flatMap (·.marks renderer))

variable {chapters : List Chapter} {pages : List Rendering}

/-- Pages rendered one after the other get the ids that a counter hands out to them as one. -/
private theorem flatMap_headingIds {counter : Counter} {seen : List (List Char)}
    (hpages : renderer.renderings counter chapters = .ok pages)
    (hid : ∀ page ∈ pages, page.context.pageId ≠ [])
    (hown : ∀ page ∈ pages, none ∉ page.slugs renderer)
    (hseen : ∀ base, counter.count base = seen.count base) :
    pages.flatMap (·.headingIds renderer) =
      (issuedFrom seen (pages.flatMap (·.marks renderer))).map fun issued =>
        String.ofList issued.id := by
  induction chapters generalizing counter seen pages with
  | nil =>
    rw [← Except.ok.inj hpages]
    rfl
  | cons chapter chapters ih =>
    obtain ⟨context, others, -, hothers, rfl⟩ := renderer.renderings_cons hpages
    let page : Rendering := ⟨context, counter, chapter.text⟩
    rw [List.forall_mem_cons] at hid hown
    have hfirst : page.headingIds renderer =
        (issuedFrom seen (page.marks renderer)).map fun issued => String.ofList issued.id := by
      rw [Rendering.headingIds_eq]
      exact anchorIds_eq_issuedFrom hid.1 hown.1 hseen
    have hnext : ∀ base, (page.next renderer).count base =
        (((page.marks renderer).map Prod.snd).reverse ++ seen).count base := by
      intro base
      rw [Rendering.count_next, hseen, List.count_append, List.count_reverse,
        Rendering.count_marks]
      push_cast
      omega
    rw [List.flatMap_cons, List.flatMap_cons, issuedFrom_append, List.map_append,
      ih hothers hid.2 hown.2 hnext]
    exact congrArg (· ++ _) hfirst

/-- With the ids that one counter hands out, a print page repeats an id exactly if a heading has the
id of a marker or two headings clash. -/
private theorem nodup_anchors_of_issued
    (hids : pages.flatMap (·.headingIds renderer) =
      (issuedIds renderer pages).map fun issued => String.ofList issued.id)
    (hdistinct : (pages.map (·.context.pageId)).Nodup) :
    (pages.flatMap (·.anchors renderer)).Nodup ↔
      (∀ page ∈ pages, ∀ issued ∈ issuedIds renderer pages, page.context.pageId ≠ issued.id) ∧
      ∀ issued ∈ issuedIds renderer pages, ∀ other ∈ issuedIds renderer pages,
        ¬ issued.Clashes other := by
  have hperm : (pages.map (fun page => String.ofList page.context.pageId) ++
      pages.flatMap (·.headingIds renderer)).Perm (pages.flatMap (·.anchors renderer)) :=
    List.map_append_flatMap_perm pages _ _
  have hinj : Function.Injective String.ofList := fun _ _ => String.ofList_inj.mp
  have hmarkers : (pages.map fun page => String.ofList page.context.pageId).Nodup := by
    have hmapped := hdistinct.map hinj
    rwa [List.map_map] at hmapped
  have hheadings : ((issuedIds renderer pages).map fun issued => String.ofList issued.id).Nodup ↔
      ∀ issued ∈ issuedIds renderer pages, ∀ other ∈ issuedIds renderer pages,
        ¬ issued.Clashes other := by
    have hnodup : (issuedIds renderer pages).Nodup := nodup_issuedFrom _ _
    rw [← Issued.nodup_map_id hnodup, ← List.nodup_map_iff hinj, List.map_map]
    rfl
  have hdisjoint : (∀ marker ∈ pages.map fun page => String.ofList page.context.pageId,
      ∀ id ∈ (issuedIds renderer pages).map fun issued => String.ofList issued.id, marker ≠ id) ↔
      ∀ page ∈ pages, ∀ issued ∈ issuedIds renderer pages, page.context.pageId ≠ issued.id := by
    simp only [List.forall_mem_map, ne_eq, String.ofList_inj]
  rw [← hperm.nodup_iff, List.nodup_append, hids, hheadings, hdisjoint]
  constructor
  · rintro ⟨-, hclear, hmarker⟩
    exact ⟨hmarker, hclear⟩
  · rintro ⟨hmarker, hclear⟩
    exact ⟨hmarkers, hclear, hmarker⟩

/-- Every id handed out belongs to a heading of one of the pages. -/
theorem exists_page_of_mem_issuedIds {issued : Issued} (h : issued ∈ issuedIds renderer pages) :
    ∃ page ∈ pages, issued.page = page.context.pageId ∧ some issued.slug ∈ page.slugs renderer := by
  obtain ⟨page, hpage, hmark⟩ := List.mem_flatMap.mp (mem_of_mem_issuedFrom _ _ h)
  obtain ⟨base, hbase, heq⟩ := List.mem_map.mp hmark
  obtain ⟨hid, rfl⟩ := Prod.mk.inj heq
  exact ⟨page, hpage, hid.symm, List.reduceOption_mem_iff.mp hbase⟩

section PrintPage

variable (hpages : renderer.renderings {} chapters = .ok pages)
  (hid : ∀ page ∈ pages, page.context.pageId ≠ [])
  (hown : ∀ page ∈ pages, none ∉ page.slugs renderer)
include hpages hid hown

/-- The headings of the print page get the ids that one counter hands out. -/
theorem headingIds_eq_issuedIds :
    pages.flatMap (·.headingIds renderer) =
      (issuedIds renderer pages).map fun issued => String.ofList issued.id := by
  have hseen : ∀ base, Counter.count {} base = ([] : List (List Char)).count base := fun _ => rfl
  exact flatMap_headingIds renderer hpages hid hown hseen

variable (hdistinct : (pages.map (·.context.pageId)).Nodup)
include hdistinct

/-- The ids of a print page are pairwise different if no page id goes on behind another one with a
hyphen and no slug of a page is another one with a number. -/
theorem nodup_anchors
    (hpage : ∀ page ∈ pages, ∀ other ∈ pages,
      ¬ page.context.pageId ++ ['-'] <+: other.context.pageId)
    (hslug : ∀ page ∈ pages, ∀ slug other, some slug ∈ page.slugs renderer →
      some other ∈ page.slugs renderer → ∀ n ≠ 0, slug ≠ other ++ '-' :: Nat.toDigits 10 n) :
    (pages.flatMap (·.anchors renderer)).Nodup := by
  have hids := headingIds_eq_issuedIds renderer hpages hid hown
  refine (nodup_anchors_of_issued renderer hids hdistinct).mpr ⟨?_, ?_⟩
  · intro page hmem issued hissued heq
    obtain ⟨source, hsource, hid, -⟩ := exists_page_of_mem_issuedIds renderer hissued
    refine hpage source hsource page hmem ⟨issued.name, ?_⟩
    rw [heq, Issued.id, hid, List.append_assoc]
    rfl
  · intro issued hissued other hother hclash
    obtain ⟨source, hsource, hid, hbase⟩ := exists_page_of_mem_issuedIds renderer hissued
    obtain ⟨target, htarget, htid, htbase⟩ := exists_page_of_mem_issuedIds renderer hother
    rcases hclash with ⟨hsame, -, hnumber, hname⟩ | ⟨more, hlonger, -⟩
    · have heq : source = target :=
        List.inj_on_of_nodup_map hdistinct hsource htarget (hid.symm.trans (hsame.trans htid))
      rw [← heq] at htbase
      exact hslug source hsource _ _ hbase htbase _ hnumber hname
    · refine hpage source hsource target htarget ⟨more, ?_⟩
      rw [← hid, ← htid, hlonger, List.append_assoc]
      rfl

end PrintPage

/-- The ids of a print page are pairwise different exactly if no heading has the id of a marker and
no two headings clash. -/
theorem nodup_anchors_iff (hpages : renderer.renderings {} chapters = .ok pages)
    (hid : ∀ page ∈ pages, page.context.pageId ≠ [])
    (hown : ∀ page ∈ pages, none ∉ page.slugs renderer)
    (hdistinct : (pages.map (·.context.pageId)).Nodup) :
    (renderer.renderPrintPage {} chapters).html =
      .ok (pageBreak.intercalate (pages.map (·.html renderer))) ∧
    pages.flatMap (·.headingIds renderer) =
      (issuedIds renderer pages).map (fun issued => String.ofList issued.id) ∧
    ((pages.flatMap (·.anchors renderer)).Nodup ↔
      (∀ page ∈ pages, ∀ issued ∈ issuedIds renderer pages, page.context.pageId ≠ issued.id) ∧
      ∀ issued ∈ issuedIds renderer pages, ∀ other ∈ issuedIds renderer pages,
        ¬ issued.Clashes other) := by
  have hids := headingIds_eq_issuedIds renderer hpages hid hown
  refine ⟨?_, hids, nodup_anchors_of_issued renderer hids hdistinct⟩
  rw [Renderer.html_renderPrintPage, hpages]
  rfl

/-- Two chapters with one heading text. -/
theorem nodup_anchors_intro :
    let book := Renderer.markdown {} []
    let first : Rendering := ⟨⟨some "a.md".toList, []⟩, {}, "# Intro\n\n# Intro\n"⟩
    let second : Rendering := ⟨⟨some "b.md".toList, []⟩, first.next book, "# Intro\n"⟩
    let pages := [first, second]
    book.renderings {} [.ofText "a.md" first.text, .ofText "b.md" second.text] = .ok pages ∧
    pages.flatMap (·.anchors book) = ["a", "a-intro", "a-intro-1", "b", "b-intro-2"] ∧
    (∀ page ∈ pages, ∀ issued ∈ issuedIds book pages, page.context.pageId ≠ issued.id) ∧
    ∀ issued ∈ issuedIds book pages, ∀ other ∈ issuedIds book pages, ¬ issued.Clashes other := by
  intro book first second pages
  have hpages : book.renderings {} [.ofText "a.md" first.text, .ofText "b.md" second.text] =
      .ok pages := rfl
  have hid : ∀ page ∈ pages, page.context.pageId ≠ [] := by decide
  have hdistinct : (pages.map (·.context.pageId)).Nodup := by decide
  have hown : ∀ page ∈ pages, none ∉ page.slugs book := by decide +kernel
  have hanchors : pages.flatMap (·.anchors book) =
      ["a", "a-intro", "a-intro-1", "b", "b-intro-2"] := by decide +kernel
  have hnodup : (pages.flatMap (·.anchors book)).Nodup := by
    rw [hanchors]
    decide
  exact ⟨hpages, hanchors, (nodup_anchors_iff book hpages hid hown hdistinct).2.2.mp hnodup⟩

/-- The slugs and the ids of chapters in which two headings clash or a heading has the id of a
marker: the hyphen of the page id or that of the number is not told apart from one in a name. -/
theorem anchors_repeated :
    let book := Renderer.markdown {} []
    let ids (pages : List Rendering) :=
      (pages.flatMap (·.slugs book), pages.flatMap (·.anchors book))
    (book.renderings {} [.ofText "a.md" "# B C\n", .ofText "a-b.md" "# C\n"]).map ids =
      .ok ([some "b-c".toList, some "c".toList], ["a", "a-b-c", "a-b", "a-b-c"]) ∧
    (book.renderings {} [.ofText "a.md" "# B\n", .ofText "a/b.md" "Text.\n"]).map ids =
      .ok ([some "b".toList], ["a", "a-b", "a-b"]) ∧
    (book.renderings {} [.ofText "a.md" "# A\n\n# A\n\n# A 1\n"]).map ids =
      .ok ([some "a".toList, some "a".toList, some "a-1".toList],
        ["a", "a-a", "a-a-1", "a-a-1"]) := by
  decide +kernel

end Folio.Book
