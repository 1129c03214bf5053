import Folio.Proofs.Path.Anchor

/-!
# Places of chapters

A chapter has a place in the book: the names of its directories and the name of its file without the
extension. Its source and the page it is rendered to stand at that place and differ in the extension
only, also for paths that are not written in normal form.
-/

namespace Folio.Path

open Folio.Text

/-- A name that may stand in a path in front of a fragment. -/
@[mk_iff] structure IsPlain (name : List Char) : Prop extends IsName name where
  no_mark : '#' ∉ name

instance (name : List Char) : Decidable (IsPlain name) :=
  decidable_of_iff _ (isPlain_iff name).symm

/-- Where a chapter stands: the names of its directories and its file name without the extension. -/
structure Place where
  dir : List (List Char)
  stem : List Char
  dir_isPlain : ∀ name ∈ dir, IsPlain name
  stem_within : WithinSegment stem
  stem_no_mark : '#' ∉ stem

/-- A segment with more than dots in it is a name. -/
theorem isName_of_mem {segment : List Char} {c : Char} (h : WithinSegment segment)
    (hc : c ∈ segment) (hdot : c ≠ '.') : IsName segment where
  ne_nil := List.ne_nil_of_mem hc
  ne_dot he := hdot (List.mem_singleton.mp (he ▸ hc))
  ne_up he := by
    rw [he] at hc
    exact hdot (List.eq_of_mem_replicate (n := 2) hc)
  no_slash := h.1
  no_backslash := h.2

theorem WithinSegment.append {s t : List Char} (hs : WithinSegment s) (ht : WithinSegment t) :
    WithinSegment (s ++ t) := by
  rw [WithinSegment, List.mem_append, List.mem_append, not_or, not_or]
  exact ⟨⟨hs.1, ht.1⟩, hs.2, ht.2⟩

/-- The extensions that make a file name of any stem. -/
structure IsExtension (ext : List Char) : Prop where
  within : WithinSegment ext
  letter : ∃ c ∈ ext, c ≠ '.'

theorem isExtension_source : IsExtension sourceExtension :=
  ⟨⟨by decide, by decide⟩, 'm', by decide, by decide⟩

theorem isExtension_page : IsExtension htmlExtension :=
  ⟨⟨by decide, by decide⟩, 'h', by decide, by decide⟩

/-- An extension may have a text behind it. -/
theorem IsExtension.append {ext behind : List Char} (h : IsExtension ext)
    (hbehind : WithinSegment behind) : IsExtension (ext ++ behind) := by
  obtain ⟨c, hc, hdot⟩ := h.letter
  exact ⟨h.within.append hbehind, c, List.mem_append_left _ hc, hdot⟩

namespace Place

variable (place : Place)

/-- The path of a place without an extension. -/
def base : List Char := joinWith ['/'] (place.dir ++ [place.stem])

/-- The source path of the chapter. -/
def source : List Char := place.base ++ sourceExtension

/-- The page that the chapter is rendered to. -/
def page : List Char := place.base ++ htmlExtension

variable {place}

theorem base_append (ext : List Char) :
    place.base ++ ext = joinWith ['/'] (place.dir ++ [place.stem ++ ext]) :=
  (joinWith_concat_append ['/'] place.dir place.stem ext).symm

/-- What stands behind a page stands behind the extension of its place. -/
theorem page_append (behind : List Char) :
    place.page ++ behind = place.base ++ (htmlExtension ++ behind) :=
  List.append_assoc ..

section Extension

variable {ext : List Char} (hext : IsExtension ext)
include hext

theorem isName_stem_append {stem : List Char} (h : WithinSegment stem) : IsName (stem ++ ext) := by
  obtain ⟨c, hc, hdot⟩ := hext.letter
  exact isName_of_mem (h.append hext.within) (List.mem_append_right _ hc) hdot

/-- With an extension the segments of a place are names. -/
theorem isName_of_mem_segments {name : List Char}
    (h : name ∈ place.dir ++ [place.stem ++ ext]) : IsName name := by
  rcases List.mem_append.mp h with hdir | hfile
  · exact (place.dir_isPlain name hdir).toIsName
  · rw [List.mem_singleton.mp hfile]
    exact isName_stem_append hext place.stem_within

theorem settled_segments : Settled 0 (place.dir ++ [place.stem ++ ext])
    (place.dir ++ [place.stem ++ ext]) :=
  settled_of_isName fun _ => isName_of_mem_segments hext

/-- A place is in the book. -/
theorem escapesRoot_append : escapesRoot (place.base ++ ext) = false := by
  rw [base_append]
  exact escapesRoot_joinWith (List.append_ne_nil_of_right_ne_nil _ (List.cons_ne_nil _ _))
    fun _ => isName_of_mem_segments hext

/-- With an extension a place is in normal form. -/
theorem normalize_append : normalize (place.base ++ ext) = place.base ++ ext := by
  rw [base_append]
  exact (settled_segments hext).normalize_eq

theorem head?_append_ne : (place.base ++ ext).head? ≠ some '/' := by
  rw [base_append]
  exact (settled_segments hext).head?_ne

/-- An extension stays behind the file name of a path when the path is normalized. -/
theorem normalize_append_ext (path : List Char) :
    normalize (path ++ ext) = joinWith ['/'] (directory path ++ [fileName path ++ ext]) := by
  have hname : IsName (fileName (path ++ ext)) := by
    rw [fileName_append path hext.within]
    exact isName_stem_append hext (fileName_withinSegment path)
  rw [normalize_of_isName hname, directory_append path hext.within,
    fileName_append path hext.within]

/-- A path that leads to a place under one extension has its directory and its file name. -/
theorem directory_fileName_of_normalize {path : List Char}
    (h : normalize (path ++ ext) = place.base ++ ext) :
    directory path = place.dir ∧ fileName path = place.stem := by
  rw [normalize_append_ext hext, base_append] at h
  obtain ⟨climbs, names, hdir⟩ := exists_settled_directory path
  have hleft : ∀ segment ∈ directory path ++ [fileName path ++ ext], WithinSegment segment := by
    intro segment hs
    rcases List.mem_append.mp hs with hs | hs
    · exact hdir.withinSegment hs
    · rw [List.mem_singleton.mp hs]
      exact (fileName_withinSegment path).append hext.within
  have hsegments := congrArg segmentsOf h
  rw [segmentsOf_joinWith (by simp) hleft,
    segmentsOf_joinWith (by simp) fun _ hs => (isName_of_mem_segments hext hs).withinSegment]
    at hsegments
  obtain ⟨hdirs, hfiles⟩ := List.append_inj' hsegments rfl
  exact ⟨hdirs, List.append_cancel_right (List.cons.inj hfiles).1⟩

/-- Then it leads to that place under any other extension. -/
theorem normalize_append_of_normalize {path other : List Char} (hother : IsExtension other)
    (h : normalize (path ++ other) = place.base ++ other) :
    normalize (path ++ ext) = place.base ++ ext := by
  obtain ⟨hdir, hfile⟩ := directory_fileName_of_normalize hother h
  rw [normalize_append_ext hext, hdir, hfile, base_append]

end Extension

section Directory

/-- The path of the directory that a place is in; empty at the top of the book. -/
def dirPath (place : Place) : List Char := joinWith ['/'] place.dir

theorem settled_dir : Settled 0 place.dir place.dir :=
  settled_of_isName fun name hn => (place.dir_isPlain name hn).toIsName

/-- With any extension a place is in its directory. -/
theorem parent_append {ext : List Char} (hext : IsExtension ext) :
    parent (place.base ++ ext) = place.dirPath := by
  have hfile : '/' ∉ place.stem ++ ext := (place.stem_within.append hext.within).1
  rw [base_append, dirPath]
  by_cases hdir : place.dir = []
  · rw [hdir]
    exact parent_of_not_mem hfile
  · have hne : joinWith ['/'] place.dir ≠ [] :=
      joinWith_ne_nil hdir fun name hn => (place.dir_isPlain name hn).ne_nil
    rw [joinWith_concat hdir, List.append_assoc, List.singleton_append]
    exact parent_append_slash hfile hne settled_dir.head?_ne settled_dir.getLast?_ne

theorem parent_page : parent place.page = place.dirPath := parent_append isExtension_page

end Directory

section Base

variable (place) in
/-- Whether the path of a place is a path without the extension too: its stem leads down, or is
empty, or climbs at the top of the book. -/
def IsBase : Prop := place.stem ≠ ['.'] ∧ (place.stem = up → place.dir = [])

instance (place : Place) : Decidable place.IsBase := inferInstanceAs (Decidable (_ ∧ (_ → _)))

theorem normalize_base (h : place.IsBase) : normalize place.base = place.base := by
  by_cases hnil : place.stem = []
  · rw [base, hnil]
    by_cases hdir : place.dir = []
    · rw [hdir]
      rfl
    · rw [joinWith_concat hdir, List.append_nil]
      exact settled_dir.normalize_concat_eq hdir
  · by_cases hup : place.stem = up
    · rw [base, hup, h.2 hup]
      rfl
    · have hstem : IsName place.stem :=
        place.stem_within.isName (leadsDown_iff.mpr ⟨hnil, h.1, hup⟩)
      have hsegments : ∀ name ∈ place.dir ++ [place.stem], IsName name :=
        List.forall_mem_append.mpr
          ⟨settled_dir.isName, fun name hn => List.mem_singleton.mp hn ▸ hstem⟩
      exact (settled_of_isName hsegments).normalize_eq

/-- Without the extension the path of a place is resolved like any other. -/
theorem normalize_base_of_comesTo {names : List (List Char)} (hstem : place.stem ≠ [])
    (h : ComesTo false (place.dir ++ [place.stem]) 0 names) :
    normalize place.base = joinWith ['/'] names := by
  have hsegments : segmentsOf place.base = place.dir ++ [place.stem] :=
    segmentsOf_joinWith (List.append_ne_nil_of_right_ne_nil _ (List.cons_ne_nil _ _))
      (List.forall_mem_append.mpr ⟨fun _ => settled_dir.withinSegment,
        fun name hn => List.mem_singleton.mp hn ▸ place.stem_within⟩)
  have hrooted : isRooted place.base = false := by
    refine Bool.eq_false_iff.mpr fun hr => ?_
    have hnil := nil_mem_segmentsOf_of_isRooted hr
    rw [hsegments] at hnil
    rcases List.mem_append.mp hnil with hdir | hlast
    · exact settled_dir.ne_nil hdir rfl
    · exact hstem (List.mem_singleton.mp hlast).symm
  have hlast : place.base.getLast? ≠ some '/' := by
    apply getLast?_ne_slash
    rw [fileName, hsegments, List.getLastD_concat]
    exact hstem
  have hresolved : resolved place.base = names := by
    rw [resolved, hrooted, hsegments]
    exact h.resolve_eq
  rw [normalize_eq, if_neg fun hc => hlast hc.1, hresolved]

/-- Else the stem is resolved away, and at most the directory is left. -/
theorem normalize_base_isPrefix (h : ¬ place.IsBase) :
    normalize place.base <+: place.dirPath := by
  have hdir : ComesTo false place.dir 0 place.dir := settled_dir.comesTo
  by_cases hdot : place.stem = ['.']
  · have hrest : normalize place.base = place.dirPath :=
      normalize_base_of_comesTo (hdot ▸ List.cons_ne_nil _ _) (hdir.stay (Or.inr hdot))
    exact hrest ▸ List.prefix_rfl
  · obtain ⟨hup, hne⟩ : place.stem = up ∧ place.dir ≠ [] :=
      Classical.not_imp.mp fun hup => h ⟨hdot, hup⟩
    obtain ⟨front, last, hfront⟩ := (List.eq_nil_or_concat place.dir).resolve_left hne
    rw [List.concat_eq_append] at hfront
    have hleave : ComesTo false (place.dir ++ [place.stem]) 0 front := by
      rw [hfront] at hdir
      rw [hup, hfront]
      exact hdir.leave
    rw [normalize_base_of_comesTo (hup ▸ List.cons_ne_nil _ _) hleave, dirPath, hfront]
    exact joinWith_isPrefix_concat _ _ _

end Base

/-- The path of a place holds no number sign. -/
theorem mark_not_mem_base : '#' ∉ place.base := by
  apply not_mem_joinWith (by decide)
  intro name hn
  rcases List.mem_append.mp hn with hdir | hstem
  · exact (place.dir_isPlain name hdir).no_mark
  · rw [List.mem_singleton.mp hstem]
    exact place.stem_no_mark

theorem mark_not_mem_dirPath : '#' ∉ place.dirPath :=
  not_mem_joinWith (by decide) fun name hn => (place.dir_isPlain name hn).no_mark

theorem mark_not_mem_page : '#' ∉ place.page := by
  rw [page, List.mem_append, not_or]
  exact ⟨mark_not_mem_base, by decide⟩

/-- A place whose anchor says all of its path: its stem is a name that does not look like a page,
and no letter of the path is lower-cased by its surroundings. -/
@[mk_iff] structure IsRegular (place : Place) : Prop where
  stem_isName : IsName place.stem
  stem_not_page : ¬ htmlExtension <:+ lower place.stem
  no_sigma : capitalSigma ∉ place.source

instance (place : Place) : Decidable place.IsRegular :=
  decidable_of_iff _ (isRegular_iff place).symm

/-- The segments of a regular place are names without the extension too. -/
theorem IsRegular.isName (h : place.IsRegular) {name : List Char}
    (hn : name ∈ place.dir ++ [place.stem]) : IsName name := by
  rcases List.mem_append.mp hn with hdir | hstem
  · exact (place.dir_isPlain name hdir).toIsName
  · rw [List.mem_singleton.mp hstem]
    exact h.stem_isName

theorem mark_not_mem_normalize_base : '#' ∉ normalize place.base :=
  fun h => mark_not_mem_base (mem_of_mem_normalize h (by decide)).1

/-- The page id of a chapter is its normalized path in lower case with hyphens for slashes; what
looks like a page loses the extension. -/
theorem pageId_source_eq :
    pageId place.source =
      dropSuffix htmlExtension (lower (hyphened (normalize place.base))) := by
  rw [pageId, source, dropSuffix_append, anchor_eq,
    flattened_of_not_mem mark_not_mem_normalize_base]

/-- The page id of a chapter with a proper stem is its path in lower case with hyphens for
slashes. -/
theorem pageId_source_of_stem (hname : IsName place.stem)
    (hpage : ¬ htmlExtension <:+ lower place.stem) :
    pageId place.source = lower (hyphened place.base) := by
  have hbase : place.IsBase := ⟨hname.ne_dot, fun hup => absurd hup hname.ne_up⟩
  have hext : ¬ htmlExtension <:+ lower (hyphened place.base) := fun hs =>
    hpage ((suffix_lower_hyphened_iff place.stem_within.1).mp hs)
  rw [pageId_source_eq, normalize_base hbase, dropSuffix_eq_self hext]

/-- So is the page id of a regular chapter. -/
theorem pageId_source (h : place.IsRegular) :
    pageId place.source = lower (hyphened place.base) :=
  pageId_source_of_stem h.stem_isName h.stem_not_page

end Place

end Folio.Path
