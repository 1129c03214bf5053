import Folio.Link.Resolve
import Folio.Proofs.Link.Redirect
import Folio.Proofs.Path.Place

/-!
# The steps of link resolution

A relative link is first turned into a path in the book, and on the print page that path is looked
up in the redirect table. The lemmas here say what each step gives, so that the steps themselves
stay closed.
-/

namespace Folio.Link

open Folio.Text Folio.Page

/-- A destination that is neither absolute nor a fragment of its own page. -/
structure IsRelative (dest : List Char) : Prop where
  not_absolute : isAbsolute dest = false
  not_fragment : dest.head? ≠ some '#'

/-- A relative destination with the directory of its page and the page extension. -/
def prefixed (context : Context) (dest : List Char) : List Char :=
  context.basePrefix ++ pageExtension dest

/-- The path in the book that a relative destination stands for. -/
def bookPath (context : Context) (dest : List Char) : List Char :=
  Path.normalize (prefixed context dest)

theorem resolveLink_of_fragment {context : Context} {dest : List Char}
    (h : dest.head? = some '#') : resolveLink context dest = resolveFragment context dest :=
  if_pos h

/-- Only chapters of the print page have a page id. -/
theorem isPrint_of_pageId {context : Context} (hid : context.pageId ≠ []) :
    context.isPrint = true := by
  cases hpath : context.path with
  | none => exact absurd (by rw [Context.pageId, hpath]) hid
  | some path => rw [Context.isPrint, hpath]; rfl

/-- On the print page a link within a chapter gets the page id in front of its name. -/
theorem resolveLink_ownFragment {context : Context} (hprint : context.isPrint = true)
    {name : List Char} (hmark : '#' ∉ name) :
    resolveLink context ('#' :: name) = '#' :: (context.pageId ++ '-' :: name) := by
  rw [resolveLink_of_fragment rfl, resolveFragment, if_pos hprint, List.map_cons, if_pos rfl,
    map_ite_eq_self hmark]
  rfl

/-- An absolute destination is left alone. -/
theorem resolveLink_of_absolute {context : Context} {dest : List Char}
    (h : isAbsolute dest = true) : resolveLink context dest = dest := by
  have hmark : dest.head? ≠ some '#' := by
    intro hm
    obtain ⟨rest, rfl⟩ := List.head?_eq_some_iff.mp hm
    rw [isAbsolute, Bool.or_eq_true] at h
    rcases h with h | h
    · exact absurd h Bool.false_ne_true
    · exact absurd (Option.some.inj (beq_iff_eq.mp h)) (by decide)
  rw [resolveLink, if_neg hmark, if_pos h]

/-- A relative destination that leaves the book only gets its directory and extension. -/
theorem resolveLink_of_escapesRoot {context : Context} {dest : List Char} (h : IsRelative dest)
    (hesc : Path.escapesRoot (bookPath context dest) = true) :
    resolveLink context dest = prefixed context dest := by
  rw [resolveLink, if_neg h.not_fragment, h.not_absolute]
  exact if_pos hesc

/-- On the print page a relative destination in the book is looked up. -/
theorem resolveLink_of_inBook {context : Context} {dest : List Char} (h : IsRelative dest)
    (hprint : context.isPrint = true) (hin : Path.escapesRoot (bookPath context dest) = false) :
    resolveLink context dest = toPrintPage context.redirects (bookPath context dest) := by
  have hesc : ¬ Path.escapesRoot (bookPath context dest) = true := Bool.eq_false_iff.mp hin
  rw [resolveLink, if_neg h.not_fragment, h.not_absolute]
  change (if Path.escapesRoot (bookPath context dest) = true then _ else
    if context.isPrint = true then _ else _) = _
  rw [if_neg hesc, if_pos hprint]
  rfl

section Extension

/-- A fragment as it stands behind a path. -/
def withMark : Option (List Char) → List Char
  | none => []
  | some fragment => '#' :: fragment

/-- A fragment without slashes belongs to the file name of the page it stands behind. -/
theorem isExtension_withMark {fragment : Option (List Char)}
    (h : ∀ text, fragment = some text → Path.WithinSegment text) :
    Path.IsExtension (Path.htmlExtension ++ withMark fragment) := by
  apply Path.isExtension_page.append
  cases fragment with
  | none => exact ⟨List.not_mem_nil, List.not_mem_nil⟩
  | some text =>
    exact ⟨List.not_mem_cons_of_ne_of_not_mem (by decide) (h text rfl).1,
      List.not_mem_cons_of_ne_of_not_mem (by decide) (h text rfl).2⟩

/-- The page of a chapter is in the book, with a fragment and without. -/
theorem escapesRoot_page {place : Path.Place} {fragment : Option (List Char)}
    (h : ∀ text, fragment = some text → Path.WithinSegment text) :
    Path.escapesRoot (place.page ++ withMark fragment) = false := by
  rw [Path.Place.page_append]
  exact Path.Place.escapesRoot_append (isExtension_withMark h)

/-- A destination is its file and its fragment. -/
theorem append_withMark_cutAt (dest : List Char) :
    (cutAt '#' dest).1 ++ withMark (cutAt '#' dest).2 = dest := by
  rcases cutAt_cases '#' dest with ⟨-, hcut⟩ | ⟨file, fragment, rfl, -, hcut⟩
  · rw [hcut]
    exact List.append_nil dest
  · rw [hcut]
    rfl

/-- A file and a fragment behind it are told apart. -/
theorem cutAt_append_withMark {file : List Char} (h : '#' ∉ file) (fragment : Option (List Char)) :
    cutAt '#' (file ++ withMark fragment) = (file, fragment) := by
  cases fragment with
  | none => rw [withMark, List.append_nil, cutAt_of_not_mem h]
  | some fragment => rw [withMark, cutAt_append_mark h]

/-- The part of a file name in front of either extension. -/
def pageStem? (file : List Char) : Option (List Char) :=
  dropSuffix? Path.htmlExtension file <|> dropSuffix? Path.sourceExtension file

theorem pageExtension_eq (dest : List Char) :
    pageExtension dest = match pageStem? (cutAt '#' dest).1 with
      | none => dest
      | some stem => stem ++ Path.htmlExtension ++ withMark (cutAt '#' dest).2 := by
  rw [pageExtension, pageStem?]
  obtain ⟨file, fragment⟩ := cutAt '#' dest
  cases fragment <;> rfl

theorem pageStem?_html (stem : List Char) : pageStem? (stem ++ Path.htmlExtension) = some stem := by
  rw [pageStem?, dropSuffix?_append]
  rfl

theorem pageStem?_source (stem : List Char) :
    pageStem? (stem ++ Path.sourceExtension) = some stem := by
  have hnot : ¬ Path.htmlExtension <:+ stem ++ Path.sourceExtension := by
    intro h
    have hlast := List.suffix_or_suffix_of_suffix h (List.suffix_append stem _)
    exact absurd hlast (by decide)
  rw [pageStem?, dropSuffix?_eq_none hnot, dropSuffix?_append]
  rfl

theorem pageStem?_eq_none {file : List Char} (hhtml : ¬ Path.htmlExtension <:+ file)
    (hsource : ¬ Path.sourceExtension <:+ file) : pageStem? file = none := by
  rw [pageStem?, dropSuffix?_eq_none hhtml, dropSuffix?_eq_none hsource]
  rfl

/-- A destination that does not name a chapter source keeps its extension. -/
theorem pageExtension_eq_self {dest : List Char}
    (h : ¬ Path.sourceExtension <:+ (cutAt '#' dest).1) : pageExtension dest = dest := by
  rw [pageExtension_eq]
  by_cases hhtml : Path.htmlExtension <:+ (cutAt '#' dest).1
  · obtain ⟨stem, hstem⟩ := hhtml
    rw [← hstem, pageStem?_html]
    change stem ++ Path.htmlExtension ++ withMark (cutAt '#' dest).2 = dest
    rw [hstem, append_withMark_cutAt]
  · rw [pageStem?_eq_none hhtml h]

/-- A file with either extension is turned into the page of its stem; its fragment is kept. -/
theorem pageExtension_of_pageStem? {file stem : List Char} (hmark : '#' ∉ file)
    (hstem : pageStem? file = some stem) (fragment : Option (List Char)) :
    pageExtension (file ++ withMark fragment) =
      stem ++ Path.htmlExtension ++ withMark fragment := by
  rw [pageExtension_eq, cutAt_append_withMark hmark, hstem]

/-- A chapter source is turned into the page it is rendered to; its fragment is kept. -/
theorem pageExtension_source {stem : List Char} (h : '#' ∉ stem)
    (fragment : Option (List Char)) :
    pageExtension (stem ++ Path.sourceExtension ++ withMark fragment) =
      stem ++ Path.htmlExtension ++ withMark fragment := by
  refine pageExtension_of_pageStem? ?_ (pageStem?_source stem) fragment
  rw [List.mem_append, not_or]
  exact ⟨h, by decide⟩

end Extension

section Relative

private theorem head?_dropWhile_append {t : List Char}
    (h : (t.dropWhile Path.isSchemeChar).head? ≠ some ':') (s : List Char) :
    (((s ++ t).dropWhile Path.isSchemeChar).head? == some ':') =
      ((s.dropWhile Path.isSchemeChar).head? == some ':') := by
  induction s with
  | nil => exact beq_eq_false_iff_ne.mpr h
  | cons c s ih =>
    rw [List.cons_append, List.dropWhile_cons, List.dropWhile_cons]
    by_cases hc : Path.isSchemeChar c = true
    · rw [if_pos hc, if_pos hc, ih]
    · rw [if_neg hc, if_neg hc]
      rfl

/-- A text makes no scheme of what it stands behind, unless a colon ends the scheme characters that
it begins with. -/
theorem hasScheme_append {t : List Char} (h : (t.dropWhile Path.isSchemeChar).head? ≠ some ':')
    (s : List Char) : Path.hasScheme (s ++ t) = Path.hasScheme s := by
  cases s with
  | nil =>
    cases t with
    | nil => rfl
    | cons c t =>
      rw [List.nil_append, Path.hasScheme, Path.hasScheme, Bool.and_eq_false_imp]
      intro halpha
      have hc : Path.isSchemeChar c = true := by
        simp only [Path.isSchemeChar, Char.isAlphanum, halpha, Bool.true_or]
      rw [List.dropWhile_cons_of_pos hc] at h
      exact beq_eq_false_iff_ne.mpr h
  | cons c s => rw [List.cons_append, Path.hasScheme, Path.hasScheme, head?_dropWhile_append h]

/-- Nor does it make a path absolute, unless it begins with a slash. -/
theorem isAbsolute_append {t : List Char} (h : (t.dropWhile Path.isSchemeChar).head? ≠ some ':')
    (hslash : t.head? ≠ some '/') (s : List Char) : isAbsolute (s ++ t) = isAbsolute s := by
  rw [isAbsolute, isAbsolute, hasScheme_append h]
  cases s with
  | nil => rw [List.nil_append, beq_eq_false_iff_ne.mpr hslash]; rfl
  | cons c s => rfl

/-- A fragment makes no path absolute. -/
theorem isAbsolute_append_mark (s t : List Char) : isAbsolute (s ++ '#' :: t) = isAbsolute s := by
  have hfirst : (('#' :: t).dropWhile Path.isSchemeChar).head? = some '#' := rfl
  exact isAbsolute_append (by rw [hfirst]; decide) (by rw [List.head?_cons]; decide) s

/-- A path stays relative with a fragment behind it. -/
theorem IsRelative.append_withMark {dest : List Char} (h : IsRelative dest) (hne : dest ≠ [])
    (fragment : Option (List Char)) : IsRelative (dest ++ withMark fragment) := by
  cases fragment with
  | none =>
    rw [withMark, List.append_nil]
    exact h
  | some fragment =>
    refine ⟨?_, ?_⟩
    · rw [withMark, isAbsolute_append_mark, h.not_absolute]
    · obtain ⟨c, rest, rfl⟩ := List.exists_cons_of_ne_nil hne
      exact h.not_fragment

/-- The file of a relative path is relative. -/
theorem IsRelative.file {dest : List Char} (h : IsRelative dest) (hne : dest ≠ []) :
    IsRelative (cutAt '#' dest).1 ∧ (cutAt '#' dest).1 ≠ [] := by
  rcases cutAt_cases '#' dest with ⟨-, hcut⟩ | ⟨file, behind, rfl, -, hcut⟩
  · rw [hcut]
    exact ⟨h, hne⟩
  · have hfile : file ≠ [] := by
      rintro rfl
      exact h.not_fragment rfl
    rw [hcut]
    refine ⟨⟨?_, ?_⟩, hfile⟩
    · rw [← isAbsolute_append_mark file behind, h.not_absolute]
    · obtain ⟨c, rest, rfl⟩ := List.exists_cons_of_ne_nil hfile
      exact h.not_fragment

end Relative

/-- A path in the book becomes the fragment with its anchor. -/
theorem toFragment_of_inBook {path : List Char} (h : Path.escapesRoot path = false) :
    toFragment path = '#' :: Path.anchor path := by
  rw [toFragment, h]
  rfl

/-- What a redirected link is on the print page. -/
def Destination.onPrintPage : Destination → List Char
  | .address url => url
  | .inBook path => toFragment path

/-- A link that an entry is about becomes what the entry leads to. -/
theorem toPrintPage_of_applicable {redirects : List Redirect} {link : List Char} {entry : Redirect}
    (h : applicable? redirects (spellings link) = some entry) :
    toPrintPage redirects link =
      (follow entry (cutAt '#' link).1 (cutAt '#' link).2).onPrintPage := by
  rw [spellings] at h
  rw [toPrintPage]
  simp only [h]
  cases follow entry (cutAt '#' link).1 (cutAt '#' link).2 <;> rfl

/-- A link that no entry is about becomes the fragment with its anchor. -/
theorem toPrintPage_of_not_applicable {redirects : List Redirect} {link : List Char}
    (h : applicable? redirects (spellings link) = none) :
    toPrintPage redirects link = toFragment link := by
  rw [spellings] at h
  rw [toPrintPage]
  simp only [h]

end Folio.Link
