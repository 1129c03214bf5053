import Folio.Proofs.Link.Resolve
import Folio.Proofs.Path.Behind

/-!
# Links on a page of its own

On a page of its own a link to a chapter becomes the path of the page. The fragment is normalized
along with the path it stands behind, so it survives only if it reads like names behind the file.
What such a link is resolved to is resolved to itself, also if it begins like a scheme by then.
-/

namespace Folio.Link

open Folio.Page Folio.Path Folio.Text

/-- The extension of a chapter source or of the page it is rendered to. -/
def IsFileExtension (ext : List Char) : Prop := ext = sourceExtension ∨ ext = htmlExtension

/-- On a page of its own a relative destination is normalized, unless it leaves the book. -/
theorem resolveLink_standalone {redirects : List Redirect} {dest : List Char}
    (h : IsRelative dest) :
    resolveLink ⟨none, redirects⟩ dest =
      if escapesRoot (normalize (pageExtension dest)) = true then pageExtension dest
      else normalize (pageExtension dest) := by
  rw [resolveLink, if_neg h.not_fragment, h.not_absolute]
  rfl

section File

variable {stem ext fragment : List Char} (hmark : '#' ∉ stem) (hext : IsFileExtension ext)
include hmark hext

theorem mark_not_mem_file : '#' ∉ stem ++ ext := by
  rw [List.mem_append, not_or]
  rcases hext with rfl | rfl
  · exact ⟨hmark, by decide⟩
  · exact ⟨hmark, by decide⟩

/-- Either file stands for the page, and what follows its mark stays behind it. -/
theorem pageExtension_file_withMark (behind : Option (List Char)) :
    pageExtension (stem ++ ext ++ withMark behind) = stem ++ htmlExtension ++ withMark behind := by
  have hstem : pageStem? (stem ++ ext) = some stem := by
    rcases hext with rfl | rfl
    · exact pageStem?_source stem
    · exact pageStem?_html stem
  exact pageExtension_of_pageStem? (mark_not_mem_file hmark hext) hstem behind

theorem pageExtension_file :
    pageExtension (stem ++ ext ++ '#' :: fragment) = stem ++ htmlExtension ++ '#' :: fragment :=
  pageExtension_file_withMark hmark hext (some fragment)

/-- With a fragment behind it, the file of a relative stem is relative. -/
theorem isRelative_file (hstem : isAbsolute stem = false) :
    IsRelative (stem ++ ext ++ '#' :: fragment) := by
  have habsolute : isAbsolute (stem ++ ext) = false := by
    rw [← hstem]
    rcases hext with rfl | rfl
    · exact isAbsolute_append (by decide) (by decide) stem
    · exact isAbsolute_append (by decide) (by decide) stem
  have hne : ext ≠ [] := by
    rcases hext with rfl | rfl
    · exact List.cons_ne_nil _ _
    · exact List.cons_ne_nil _ _
  have hfile : IsRelative (stem ++ ext) :=
    ⟨habsolute, fun hhead => mark_not_mem_file hmark hext (List.mem_of_head? hhead)⟩
  exact hfile.append_withMark (List.append_ne_nil_of_right_ne_nil _ hne) (some fragment)

/-- On a page of its own, a link to a file that is not in the book keeps its fragment. A link to one
in the book keeps it behind the normalized path exactly if the fragment is free of backslashes and
has nothing but names and one closing slash behind its first slash, or leads out of the book behind
a path that is in normal form already. -/
theorem resolveLink_standalone_fragment (hstem : isAbsolute stem = false)
    (redirects : List Redirect) :
    (escapesRoot (normalize (stem ++ htmlExtension)) = true →
      resolveLink ⟨none, redirects⟩ (stem ++ ext ++ '#' :: fragment) =
        stem ++ htmlExtension ++ '#' :: fragment) ∧
    (escapesRoot (normalize (stem ++ htmlExtension)) = false →
      (resolveLink ⟨none, redirects⟩ (stem ++ ext ++ '#' :: fragment) =
          normalize (stem ++ htmlExtension) ++ '#' :: fragment ↔
        IsKeptBehind fragment ∨
          escapesRoot (normalize (stem ++ htmlExtension ++ '#' :: fragment)) = true ∧
            normalize (stem ++ htmlExtension) = stem ++ htmlExtension)) := by
  have hrelative : IsRelative (stem ++ ext ++ '#' :: fragment) := isRelative_file hmark hext hstem
  have hkept : IsKeptBehind fragment ↔ IsKeptBehind ('#' :: fragment) :=
    (isKeptBehind_cons_iff (by decide)).symm
  have hpage : HasFile (stem ++ htmlExtension) :=
    isExtension_page.hasFile_append stem
  rw [resolveLink_standalone hrelative, pageExtension_file hmark hext, hkept]
  generalize stem ++ htmlExtension = page at hpage ⊢
  generalize '#' :: fragment = text
  constructor
  · intro hesc
    rw [if_pos (hpage.escapesRoot_append hesc)]
  · intro hin
    by_cases hesc : escapesRoot (normalize (page ++ text)) = true
    · have hnot : ¬ IsKeptBehind text := by
        intro hkept
        rw [hpage.escapesRoot_append_of_isKeptBehind hkept, hin] at hesc
        exact Bool.false_ne_true hesc
      rw [if_pos hesc, List.append_cancel_right_eq, or_iff_right hnot, and_iff_right hesc]
      exact eq_comm
    · rw [if_neg hesc, or_iff_left fun hout => hesc hout.1]
      exact ⟨hpage.isKeptBehind (Bool.eq_false_iff.mpr hesc), hpage.normalize_append⟩

end File

/-- A link to a section named by a path in its chapter. -/
theorem resolveLink_standalone_section :
    IsKeptBehind "part/top".toList ∧
      resolveLink ⟨none, []⟩ "./guide/page.md#part/top".toList =
        "guide/page.html#part/top".toList := by
  have hkept : IsKeptBehind "part/top".toList :=
    ⟨"part".toList, ["top".toList], [], by decide, by decide, by decide, Or.inl rfl⟩
  have hlink := (@resolveLink_standalone_fragment "./guide/page".toList sourceExtension
    "part/top".toList (by decide) (Or.inl rfl) (by decide) []).2 (by decide)
  exact ⟨hkept, (hlink.mpr (Or.inl hkept)).trans (by decide)⟩

/-- Dots in a fragment take the file off the path, or are taken off the fragment themselves. -/
theorem resolveLink_standalone_dots :
    escapesRoot (normalize "page.html".toList) = false ∧
      resolveLink ⟨none, []⟩ "page.md#a/../b".toList = "b".toList ∧
      normalize "page.html".toList ++ "#a/../b".toList ≠ "b".toList ∧
      resolveLink ⟨none, []⟩ "page.md#/a/../b".toList = "page.html#/b".toList ∧
      normalize "page.html".toList ++ "#/a/../b".toList ≠ "page.html#/b".toList := by
  decide

section Page

variable {stem : List Char} {fragment : Option (List Char)}

/-- A page keeps its shape in normal form: the extension and the fragment stay behind a path without
number signs. -/
theorem exists_normalize_page (hmark : '#' ∉ stem)
    (hwithin : ∀ text, fragment = some text → WithinSegment text) :
    ∃ base, '#' ∉ base ∧ normalize (stem ++ htmlExtension ++ withMark fragment) =
      base ++ htmlExtension ++ withMark fragment := by
  have hpage := Place.normalize_append_ext isExtension_page stem
  have hbehind := Place.normalize_append_ext (isExtension_withMark hwithin) stem
  rw [joinWith_concat_append] at hpage hbehind
  refine ⟨joinWith ['/'] (directory stem ++ [fileName stem]), fun hbase => ?_, ?_⟩
  · have hmem : '#' ∈ normalize (stem ++ htmlExtension) :=
      hpage ▸ List.mem_append_left htmlExtension hbase
    have hfile : '#' ∈ stem ++ htmlExtension := (mem_of_mem_normalize hmem (by decide)).1
    exact mark_not_mem_file hmark (Or.inr rfl) hfile
  · rw [List.append_assoc, hbehind, List.append_assoc]

/-- A page with a fragment behind it is resolved to itself on a page of its own, unless it is in the
book and not in normal form. -/
theorem resolveLink_standalone_page (hmark : '#' ∉ stem) (redirects : List Redirect)
    (h : escapesRoot (normalize (stem ++ htmlExtension ++ withMark fragment)) = true ∨
      normalize (stem ++ htmlExtension ++ withMark fragment) =
        stem ++ htmlExtension ++ withMark fragment) :
    resolveLink ⟨none, redirects⟩ (stem ++ htmlExtension ++ withMark fragment) =
      stem ++ htmlExtension ++ withMark fragment := by
  have hfile : '#' ∉ stem ++ htmlExtension := mark_not_mem_file hmark (Or.inr rfl)
  cases habsolute : isAbsolute (stem ++ htmlExtension ++ withMark fragment) with
  | true => exact resolveLink_of_absolute habsolute
  | false =>
    have hne : stem ++ htmlExtension ≠ [] :=
      List.append_ne_nil_of_right_ne_nil stem (List.cons_ne_nil _ _)
    have hhead : (stem ++ htmlExtension ++ withMark fragment).head? ≠ some '#' := by
      rw [List.head?_append_of_ne_nil _ hne]
      exact fun hhead => hfile (List.mem_of_head? hhead)
    have hpage := pageExtension_file_withMark hmark (Or.inr rfl) fragment
    rw [resolveLink_standalone ⟨habsolute, hhead⟩, hpage]
    rcases h with hesc | hnormal
    · rw [if_pos hesc]
    · rw [hnormal, ite_self]

/-- On a page of its own, resolving a link to a page once more changes nothing, whether it leaves
the book or not. -/
theorem resolveLink_standalone_stable {ext : List Char} (hmark : '#' ∉ stem)
    (hext : IsFileExtension ext) (hwithin : ∀ text, fragment = some text → WithinSegment text)
    (hrelative : IsRelative (stem ++ ext ++ withMark fragment)) (redirects : List Redirect) :
    let resolve := resolveLink ⟨none, redirects⟩
    resolve (resolve (stem ++ ext ++ withMark fragment)) =
      resolve (stem ++ ext ++ withMark fragment) := by
  intro resolve
  have hpage := pageExtension_file_withMark hmark hext fragment
  have hresolved : resolve (stem ++ ext ++ withMark fragment) =
      if escapesRoot (normalize (stem ++ htmlExtension ++ withMark fragment)) = true then
        stem ++ htmlExtension ++ withMark fragment
      else normalize (stem ++ htmlExtension ++ withMark fragment) := by
    rw [← hpage]
    exact resolveLink_standalone hrelative
  rw [hresolved]
  by_cases hesc :
      escapesRoot (normalize (stem ++ htmlExtension ++ withMark fragment)) = true
  · rw [if_pos hesc]
    exact resolveLink_standalone_page hmark redirects (Or.inl hesc)
  · rw [if_neg hesc]
    obtain ⟨base, hbase, hnormal⟩ := exists_normalize_page hmark hwithin
    rw [hnormal]
    apply resolveLink_standalone_page hbase
    exact Or.inr (by rw [← hnormal, normalize_normalize])

end Page

/-- A link that begins like one with a scheme once it is in normal form, and one that leaves the
book. -/
theorem resolveLink_standalone_stable_scheme :
    let resolve := resolveLink ⟨none, []⟩
    resolve "./a:b\\c//page.md#top".toList = "a:b/c/page.html#top".toList ∧
      resolve (resolve "./a:b\\c//page.md#top".toList) =
        resolve "./a:b\\c//page.md#top".toList ∧
      resolve "x/../../y.html.md".toList = "x/../../y.html.html".toList ∧
      resolve (resolve "x/../../y.html.md".toList) = resolve "x/../../y.html.md".toList := by
  intro resolve
  have hwithin : ∀ text, some "top".toList = some text → WithinSegment text := by
    rintro _ ⟨⟩
    decide
  have hin := @resolveLink_standalone_stable "./a:b\\c//page".toList (some "top".toList)
    sourceExtension (by decide) (Or.inl rfl) hwithin ⟨by decide, by decide⟩ []
  have hout := @resolveLink_standalone_stable "x/../../y.html".toList none sourceExtension
    (by decide) (Or.inl rfl) nofun ⟨by decide, by decide⟩ []
  exact ⟨by decide, hin, by decide, hout⟩

end Folio.Link
