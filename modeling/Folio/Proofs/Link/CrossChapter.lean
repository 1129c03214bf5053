import Folio.Book.PrintPage
import Folio.Proofs.Link.Resolve

/-!
# Links between chapters

On the print page a link to a chapter source is computed from the page it is rendered to, and the
ids it should lead to are computed from the source path. Both come out as the same text: a link to
a chapter names its marker, and a link to a heading of the chapter names that heading.
-/

namespace Folio.Link

open Folio.Anchor Folio.Book Folio.Page Folio.Path Folio.Text

/-- A fragment made like a slug: of characters that ids keep, in lower case. -/
@[mk_iff] structure IsSlugLike (fragment : List Char) : Prop where
  kept : ∀ c ∈ fragment, isAlphanumeric c = true ∨ c = '_' ∨ c = '-'
  lower_eq : lower fragment = fragment

instance (fragment : List Char) : Decidable (IsSlugLike fragment) :=
  have : Decidable (∀ c ∈ fragment, isAlphanumeric c = true ∨ c = '_' ∨ c = '-') :=
    List.decidableBAll _ fragment
  decidable_of_iff _ (isSlugLike_iff fragment).symm

/-- Signs that vanish from ids stand in no slug. -/
theorem IsSlugLike.not_mem {fragment : List Char} (h : IsSlugLike fragment) {c : Char}
    (hc : (isAlphanumeric c || c == '_' || c == '-') = false) : c ∉ fragment := by
  intro hmem
  simp only [Bool.or_eq_false_iff, beq_eq_false_iff_ne] at hc
  rcases h.kept c hmem with halpha | hline | hhyphen
  · exact Bool.false_ne_true (hc.1.1.symm.trans halpha)
  · exact hc.1.2 hline
  · exact hc.2 hhyphen

theorem IsSlugLike.withinSegment {fragment : List Char} (h : IsSlugLike fragment) :
    WithinSegment fragment := ⟨h.not_mem (by decide), h.not_mem (by decide)⟩

/-- The anchor of a slug on a page is the page id with the slug behind it. -/
theorem IsSlugLike.anchor_eq {place : Place} (hplace : place.IsRegular) {fragment : List Char}
    (h : IsSlugLike fragment) :
    anchor (place.page ++ '#' :: fragment) = pageId place.source ++ '-' :: fragment := by
  rw [Place.pageId_source hplace, Place.page]
  exact anchor_fragment Place.mark_not_mem_base (h.not_mem (by decide)) (h.not_mem (by decide))
    (h.not_mem (by decide)) h.lower_eq

section Anchors

end Anchors

section Destinations

variable {context : Context} {place : Place} {dest : List Char}

/-- However it is spelled, a link to the source of a chapter stands for the page of the chapter. -/
theorem bookPath_of_source (hmark : '#' ∉ dest) (hext : sourceExtension <:+ dest)
    (hpath : normalize (context.basePrefix ++ dest) = place.source)
    {fragment : Option (List Char)}
    (hfragment : ∀ text, fragment = some text → WithinSegment text) :
    bookPath context (dest ++ withMark fragment) = place.page ++ withMark fragment := by
  obtain ⟨stem, rfl⟩ := hext
  rw [List.mem_append, not_or] at hmark
  rw [← List.append_assoc] at hpath
  have hpage := Place.normalize_append_of_normalize (isExtension_withMark hfragment)
    isExtension_source hpath
  rw [bookPath, prefixed, pageExtension_source hmark.1, Place.page_append, ← hpage]
  simp only [List.append_assoc]

/-- Unless the page has moved, the link becomes the anchor of the page with its fragment. -/
theorem resolveLink_of_source (fragment : Option (List Char)) (hprint : context.isPrint = true)
    (hmark : '#' ∉ dest) (hrelative : isAbsolute dest = false) (hext : sourceExtension <:+ dest)
    (hpath : normalize (context.basePrefix ++ dest) = place.source)
    (hfragment : ∀ text, fragment = some text → WithinSegment text)
    (hunmoved : Unmoved context.redirects (place.page ++ withMark fragment)) :
    resolveLink context (dest ++ withMark fragment) =
      '#' :: anchor (place.page ++ withMark fragment) := by
  have hne : dest ≠ [] := by
    rintro rfl
    exact absurd (List.suffix_nil.mp hext) (List.cons_ne_nil _ _)
  have hhead : dest.head? ≠ some '#' := fun hh => hmark (List.mem_of_head? hh)
  have hrel : IsRelative (dest ++ withMark fragment) :=
    IsRelative.append_withMark ⟨hrelative, hhead⟩ hne fragment
  have hbook := bookPath_of_source hmark hext hpath hfragment
  have hin : escapesRoot (place.page ++ withMark fragment) = false := escapesRoot_page hfragment
  rw [resolveLink_of_inBook hrel hprint (hbook ▸ hin), hbook,
    toPrintPage_of_not_applicable (applicable?_eq_none hunmoved), toFragment_of_inBook hin]

end Destinations

end Folio.Link
