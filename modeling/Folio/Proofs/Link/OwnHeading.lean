import Folio.Markdown.Document
import Folio.Proofs.Link.Resolve
import Folio.Proofs.Page.UniqueIds

/-!
# Links to the headings of the own chapter

On the print page a link within a chapter gets the page id in front of its name. So does an id that
the counter hands out, and a named anchor, and links reach these. An id that the attributes of a
heading give is kept: only a name that lacks the page id in it is led to it, and never its own.
-/

namespace Folio.Link

open Folio.Anchor Folio.Page

section Reaching

variable {context : Context}

/-- Whether a link to a name within the page leads to an id. -/
def Reaches (context : Context) (name id : List Char) : Prop :=
  resolveLink context ('#' :: name) = '#' :: id

/-- A link leads to its name behind the page id. -/
theorem reaches_iff (h : context.pageId ≠ []) {name id : List Char} (hmark : '#' ∉ name) :
    Reaches context name id ↔ id = context.pageId ++ '-' :: name := by
  rw [Reaches, resolveLink_ownFragment (isPrint_of_pageId h) hmark, List.cons_inj_right, eq_comm]

/-- A named anchor is reached by its name. -/
theorem reaches_resolveName (h : context.pageId ≠ []) {name : List Char} (hmark : '#' ∉ name) :
    Reaches context name (resolveName context name) := by
  rw [reaches_iff h hmark, resolveName, if_pos (isPrint_of_pageId h)]

/-- An id that is spelled with the page id is reached by what it spells. -/
theorem reaches_spell (h : context.pageId ≠ []) {name : List Char} (hmark : '#' ∉ name) :
    Reaches context name (context.spell name).toList := by
  rw [reaches_iff h hmark, Context.spell, if_neg h, String.toList_ofList]

/-- No id is reached by itself. -/
theorem not_reaches_self (h : context.pageId ≠ []) {id : List Char} (hmark : '#' ∉ id) :
    ¬ Reaches context id id := by
  rw [reaches_iff h hmark]
  intro heq
  have hlength := congrArg List.length heq
  rw [List.length_append, List.length_cons] at hlength
  omega

end Reaching

/-- How a link within a chapter leads to a heading that is anchored with an id. A given id is kept,
so the names that lead to it are those it spells behind the page id, and it is none of them. Any
other id is led to by a slug of the heading with a number. -/
structure IsAnchored (context : Context) (heading : Heading) (id : String) : Prop where
  given : ∀ given, heading.id? = some given → id = given ∧
    (∀ name, '#' ∉ name →
      (Reaches context name id.toList ↔ given.toList = context.pageId ++ '-' :: name)) ∧
    ('#' ∉ given.toList → ¬ Reaches context given.toList id.toList)
  issued : heading.id? = none → ∃ base seen, heading.slug? = some base ∧
    id = context.spell (numbered base seen) ∧ Reaches context (numbered base seen) id.toList

/-- Anchoring a heading gives it such an id. -/
theorem isAnchored_anchorId {context : Context} (h : context.pageId ≠ []) (counter : Counter)
    (heading : Heading) :
    IsAnchored context heading (anchorId context counter heading.opening heading.inline).1 where
  given given hgiven := by
    rw [Heading.anchorId_of_id? hgiven]
    exact ⟨rfl, fun name hmark => reaches_iff h hmark, fun hmark => not_reaches_self h hmark⟩
  issued hnone := by
    obtain ⟨base, hbase⟩ := Heading.exists_slug?_of_id? hnone
    have hmark : '#' ∉ base := Heading.mark_not_mem_slug? hbase
    rw [anchorId_of_slug? hbase]
    exact ⟨base, counter.count base, hbase, rfl,
      reaches_spell h (mark_not_mem_numbered hmark _)⟩

/-- The headings of a chapter keep their order on the print page and each gets one id. Links lead to
the ids that the counter hands out, and to named anchors. An id that the attributes give is kept
without the page id, so no link with its name leads to it. -/
theorem anchorHeadings_reached {context : Context} (h : context.pageId ≠ []) (counter : Counter)
    (tokens : List Token) :
    (∃ ids : List String,
      (headings (anchorHeadings context counter tokens).1).map Heading.id? = ids.map some ∧
      List.Forall₂ (IsAnchored context) (headings tokens) ids) ∧
    ∀ name, '#' ∉ name → Reaches context name (resolveName context name) := by
  refine ⟨⟨(anchorIds context counter (headings tokens)).1,
    (headings_anchorHeadings context counter tokens).1, ?_⟩,
    fun name hmark => reaches_resolveName h hmark⟩
  induction headings tokens generalizing counter with
  | nil => exact List.Forall₂.nil
  | cons heading rest ih =>
    exact List.Forall₂.cons (isAnchored_anchorId h counter heading) (ih _)

/-- A given id in front of one that is handed out. -/
theorem anchorHeadings_reached_mixed :
    let context : Context := ⟨some "ch.md".toList, []⟩
    let tokens := Markdown.parse {} "# Title \x7b#intro\x7d\n\n# Other\n"
    context.pageId ≠ [] ∧
      (headings (anchorHeadings context {} tokens).1).map Heading.id? =
        ["intro", "ch-other"].map some ∧
      List.Forall₂ (IsAnchored context) (headings tokens) ["intro", "ch-other"] := by
  intro context tokens
  have hid : context.pageId ≠ [] := by decide
  have hmixed : (headings (anchorHeadings context {} tokens).1).map Heading.id? =
      ["intro", "ch-other"].map some := by decide +kernel
  obtain ⟨⟨ids, hids, hanchored⟩, -⟩ := anchorHeadings_reached hid {} tokens
  have heq : ids = ["intro", "ch-other"] :=
    List.map_injective_iff.mpr (fun _ _ => Option.some.inj) (hids.symm.trans hmixed)
  exact ⟨hid, hmixed, heq ▸ hanchored⟩

/-- The link to the title leads to a name with the page id, which the title has not. -/
theorem givenId_not_reached :
    let context : Context := ⟨some "ch.md".toList, []⟩
    let tokens := Markdown.parse {} "# Title \x7b#intro\x7d\n"
    (headings tokens).map Heading.id? = [some "intro"] ∧
      (headings (anchorHeadings context {} tokens).1).map Heading.id? = [some "intro"] ∧
      resolveLink context "#intro".toList = "#ch-intro".toList ∧
      ¬ Reaches context "intro".toList "intro".toList := by
  intro context tokens
  exact ⟨by decide +kernel, by decide +kernel, by decide, not_reaches_self (by decide) (by decide)⟩

end Folio.Link
