import Folio.Proofs.Path.Canonical
import Folio.Proofs.Path.Place

/-!
# Texts behind a file

A fragment stands behind the file of a path and is normalized together with it. Its slashes count as
those of the path, so it is kept only if resolution leaves its segments alone; else it changes, or
even takes segments off the path. A path that leaves the book does so with any text behind it.
-/

namespace Folio.Path

open Folio.Text

/-- A text that is kept behind a file: it is free of backslashes, and behind its first slash there
are only names, the last of them closed by a slash at most. -/
def IsKeptBehind (text : List Char) : Prop :=
  ∃ first names closing, splitAt '/' text = first :: (names ++ closing) ∧ WithinSegment first ∧
    (∀ name ∈ names, IsName name) ∧ (closing = [] ∨ closing = [[]])

/-- A sign that is no slash may stand in front. -/
theorem isKeptBehind_cons_iff {c : Char} (h : WithinSegment [c]) {text : List Char} :
    IsKeptBehind (c :: text) ↔ IsKeptBehind text := by
  have hslash : c ≠ '/' := fun he => h.1 (he ▸ List.mem_cons_self)
  have hback : c ≠ '\\' := fun he => h.2 (he ▸ List.mem_cons_self)
  have hwithin : ∀ first : List Char, WithinSegment (c :: first) ↔ WithinSegment first := by
    intro first
    simp only [WithinSegment, List.mem_cons, not_or, hslash.symm, hback.symm, not_false_eq_true,
      true_and]
  obtain ⟨first, rest, hsplit⟩ := List.exists_cons_of_ne_nil (splitAt_ne_nil '/' text)
  have hcons : splitAt '/' (c :: text) = (c :: first) :: rest := by
    rw [splitAt, if_neg hslash, hsplit]
  rw [IsKeptBehind, IsKeptBehind, hcons, hsplit]
  constructor
  · rintro ⟨_, names, closing, hpieces, hfirst, hrest⟩
    obtain ⟨rfl, rfl⟩ := List.cons.inj hpieces
    exact ⟨first, names, closing, rfl, (hwithin first).mp hfirst, hrest⟩
  · rintro ⟨_, names, closing, hpieces, hfirst, hrest⟩
    obtain ⟨rfl, rfl⟩ := List.cons.inj hpieces
    exact ⟨c :: first, names, closing, rfl, (hwithin first).mpr hfirst, hrest⟩

/-- Its pieces are the segments that it has as a path, and none behind the first leads up. -/
theorem IsKeptBehind.segmentsOf_eq {text : List Char} (h : IsKeptBehind text) :
    segmentsOf text = splitAt '/' text ∧ up ∉ (splitAt '/' text).tail := by
  obtain ⟨first, names, closing, hsplit, hfirst, hnames, hclosing⟩ := h
  have hrest : ∀ piece ∈ names ++ closing, '\\' ∉ piece ∧ piece ≠ up := by
    intro piece hpiece
    rcases List.mem_append.mp hpiece with hname | hend
    · exact ⟨(hnames piece hname).no_backslash, (hnames piece hname).ne_up⟩
    · rcases hclosing with rfl | rfl
      · exact absurd hend List.not_mem_nil
      · rw [List.mem_singleton.mp hend]
        exact ⟨List.not_mem_nil, by decide⟩
  have hback : '\\' ∉ text := by
    rw [← joinWith_splitAt '/' text, hsplit]
    exact not_mem_joinWith (by decide)
      (List.forall_mem_cons.mpr ⟨hfirst.2, fun piece hpiece => (hrest piece hpiece).1⟩)
  rw [segmentsOf, withSlashes_eq_self hback, hsplit, List.tail_cons]
  exact ⟨rfl, fun hup => (hrest up hup).2 rfl⟩

/-- A normal form is free of backslashes. -/
theorem backslash_not_mem_normalize (path : List Char) : '\\' ∉ normalize path :=
  fun h => (mem_of_mem_normalize h (by decide)).2 rfl

/-- If pieces are names and at most an empty one at the end, so are those behind one that is not
empty. -/
theorem exists_names_of_append {front rest names closing : List (List Char)} {file : List Char}
    (h : front ++ file :: rest = names ++ closing) (hfile : file ≠ [])
    (hclosing : closing = [] ∨ closing = [[]]) :
    ∃ others, rest = others ++ closing ∧ ∀ name ∈ others, name ∈ names := by
  rcases hclosing with rfl | rfl
  · rw [List.append_nil] at h
    refine ⟨rest, (List.append_nil rest).symm, fun name hn => ?_⟩
    exact h ▸ List.mem_append_right _ (List.mem_cons_of_mem _ hn)
  · rcases List.eq_nil_or_concat rest with rfl | ⟨others, last, rfl⟩
    · exact absurd (List.cons.inj (List.append_inj' h rfl).2).1 hfile
    · rw [List.concat_eq_append, ← List.cons_append, ← List.append_assoc] at h
      obtain ⟨hfront, hlast⟩ := List.append_inj' h rfl
      refine ⟨others, by rw [List.concat_eq_append, (List.cons.inj hlast).1], fun name hn => ?_⟩
      exact hfront ▸ List.mem_append_right _ (List.mem_cons_of_mem _ hn)

section File

/-- A path whose file name holds more than dots. -/
def HasFile (path : List Char) : Prop := ∃ c ∈ fileName path, c ≠ '.'

/-- An extension makes a file of any path. -/
theorem IsExtension.hasFile_append {ext : List Char} (h : IsExtension ext) (path : List Char) :
    HasFile (path ++ ext) := by
  obtain ⟨c, hc, hdot⟩ := h.letter
  refine ⟨c, ?_, hdot⟩
  rw [fileName_append path h.within]
  exact List.mem_append_right _ hc

namespace HasFile

variable {path text first : List Char} {rest : List (List Char)} (h : HasFile path)
include h

/-- The file name stays a name with anything behind it. -/
theorem isName_append (hfirst : WithinSegment first) : IsName (fileName path ++ first) := by
  obtain ⟨c, hc, hdot⟩ := h
  exact isName_of_mem ((fileName_withinSegment path).append hfirst) (List.mem_append_left _ hc) hdot

theorem isName : IsName (fileName path) := by
  have hname : IsName (fileName path ++ []) :=
    h.isName_append ⟨List.not_mem_nil, List.not_mem_nil⟩
  rwa [List.append_nil] at hname

theorem ne_nil : path ≠ [] := by
  rintro rfl
  exact h.isName.ne_nil rfl

/-- A path that leaves the book leaves it with any text behind it. -/
theorem escapesRoot_append (hesc : escapesRoot (normalize path) = true) :
    escapesRoot (normalize (path ++ text)) = true := by
  obtain ⟨first, rest, hsplit⟩ := List.exists_cons_of_ne_nil (segmentsOf_ne_nil text)
  obtain ⟨hrooted, habove⟩ := (escapesRoot_normalize_iff path).mp hesc
  rw [← dropLast_append_fileName, goesAbove_concat_of_ne h.isName.ne_up] at habove
  rw [escapesRoot_normalize_iff, isRooted_append h.ne_nil, segmentsOf_append_cons path hsplit]
  exact ⟨hrooted, habove.append _⟩

/-- The segments of the normal form are the directory and the file name. -/
theorem splitAt_normalize : splitAt '/' (normalize path) = directory path ++ [fileName path] := by
  have hresolved := resolved_of_isName h.isName
  rw [Path.splitAt_normalize (hresolved ▸ List.concat_ne_nil _ _), hresolved,
    closed, if_neg (getLast?_ne_slash h.isName.ne_nil), List.append_nil]

/-- With a text behind the normal form, the first piece of the text lengthens the file name. -/
theorem splitAt_normalize_append (hsplit : splitAt '/' text = first :: rest) :
    splitAt '/' (normalize path ++ text) =
      directory path ++ (fileName path ++ first) :: rest := by
  rw [splitAt_append_cons hsplit, h.splitAt_normalize, List.dropLast_concat, List.getLastD_concat]

/-- Names behind the file, the last of them closed by a slash at most, are resolved to
themselves. -/
theorem resolved_append {names closing : List (List Char)}
    (hsplit : segmentsOf text = first :: (names ++ closing)) (hfirst : WithinSegment first)
    (hnames : ∀ name ∈ names, IsName name) (hclosing : closing = [] ∨ closing = [[]]) :
    resolved (path ++ text) = directory path ++ (fileName path ++ first) :: names := by
  have hdown : ∀ name ∈ (fileName path ++ first) :: names, leadsDown name = true :=
    List.forall_mem_cons.mpr
      ⟨(h.isName_append hfirst).leadsDown, fun name hn => (hnames name hn).leadsDown⟩
  have hentered : resolve (isRooted path)
      ((segmentsOf path).dropLast ++ (fileName path ++ first) :: names) =
        directory path ++ (fileName path ++ first) :: names := by
    obtain ⟨climbs, entered, hdir⟩ := exists_comesTo (isRooted path) (segmentsOf path).dropLast
    rw [(hdir.enterAll hdown).resolve_eq, directory, hdir.resolve_eq, List.append_assoc]
  rw [resolved, isRooted_append h.ne_nil, segmentsOf_append_cons path hsplit]
  rcases hclosing with rfl | rfl
  · rw [List.append_nil, hentered]
  · rw [← List.cons_append, ← List.append_assoc, resolve_concat_nil, hentered]

/-- With them the path is closed by a slash exactly if the names are. -/
theorem closed_append {names closing : List (List Char)}
    (hsplit : splitAt '/' text = first :: (names ++ closing))
    (hsegments : segmentsOf text = first :: (names ++ closing)) (hfirst : WithinSegment first)
    (hnames : ∀ name ∈ names, IsName name) (hclosing : closing = [] ∨ closing = [[]]) :
    closed (path ++ text) = closing := by
  rw [closed]
  rcases hclosing with rfl | rfl
  · have hfiles : ∀ name ∈ (fileName path ++ first) :: names, IsName name :=
      List.forall_mem_cons.mpr ⟨h.isName_append hfirst, hnames⟩
    have hfile : fileName (path ++ text) = names.getLastD (fileName path ++ first) := by
      rw [fileName, segmentsOf_append_cons path hsegments, List.append_nil,
        List.getLastD_eq_getLast?, List.getLast?_append_cons, ← List.getLastD_eq_getLast?,
        List.getLastD_cons]
    have hne : fileName (path ++ text) ≠ [] :=
      hfile ▸ (hfiles _ List.getLastD_mem_cons).ne_nil
    rw [if_neg (getLast?_ne_slash hne)]
  · have hslash : text.getLast? = some '/' :=
      getLast?_eq_mark_iff.mpr ⟨first :: names, List.cons_ne_nil _ _, hsplit⟩
    have hend : (path ++ text).getLast? = some '/' := by
      rw [List.getLast?_append, hslash]
      rfl
    rw [if_pos hend]

/-- A text that is kept stands behind the normal form of the path. -/
theorem normalize_append (hkept : IsKeptBehind text) :
    normalize (path ++ text) = normalize path ++ text := by
  have hsegments := hkept.segmentsOf_eq.1
  obtain ⟨first, names, closing, hsplit, hfirst, hnames, hclosing⟩ := hkept
  rw [hsplit] at hsegments
  have hresolved := h.resolved_append hsegments hfirst hnames hclosing
  have hne : resolved (path ++ text) ≠ [] :=
    hresolved ▸ List.append_ne_nil_of_right_ne_nil _ (List.cons_ne_nil _ _)
  have hpieces : splitAt '/' (normalize (path ++ text)) = splitAt '/' (normalize path ++ text) := by
    rw [h.splitAt_normalize_append hsplit, Path.splitAt_normalize hne,
      h.closed_append hsplit hsegments hfirst hnames hclosing, hresolved, List.append_assoc,
      List.cons_append]
  exact eq_of_splitAt_eq hpieces

/-- It leads the path neither out of the book nor back into it. -/
theorem escapesRoot_append_of_isKeptBehind (hkept : IsKeptBehind text) :
    escapesRoot (normalize (path ++ text)) = escapesRoot (normalize path) := by
  obtain ⟨first, rest, hsplit⟩ := List.exists_cons_of_ne_nil (splitAt_ne_nil '/' text)
  obtain ⟨hsegments, hup⟩ := hkept.segmentsOf_eq
  rw [hsplit] at hsegments hup
  have hfirst : WithinSegment first :=
    withinSegment_of_mem_segmentsOf (hsegments ▸ List.mem_cons_self)
  have hnot : up ∉ (fileName path ++ first) :: rest :=
    List.not_mem_cons_of_ne_of_not_mem (h.isName_append hfirst).ne_up.symm hup
  rw [Bool.eq_iff_iff, escapesRoot_normalize_iff, escapesRoot_normalize_iff,
    isRooted_append h.ne_nil, segmentsOf_append_cons path hsegments,
    goesAbove_append_of_not_mem hnot, ← dropLast_append_fileName path,
    goesAbove_concat_of_ne h.isName.ne_up, dropLast_append_fileName]

/-- Only such a text is kept by a path that stays in the book. -/
theorem isKeptBehind (hin : escapesRoot (normalize (path ++ text)) = false)
    (heq : normalize (path ++ text) = normalize path ++ text) : IsKeptBehind text := by
  obtain ⟨first, rest, hsplit⟩ := List.exists_cons_of_ne_nil (splitAt_ne_nil '/' text)
  have hback : '\\' ∉ text := fun hb =>
    backslash_not_mem_normalize (path ++ text) (heq ▸ List.mem_append_right _ hb)
  have hmem : first ∈ splitAt '/' text := hsplit ▸ List.mem_cons_self
  have hfirst : WithinSegment first :=
    ⟨not_mem_of_mem_splitAt hmem, fun hb => hback (mem_of_mem_splitAt hmem hb)⟩
  have hfile : fileName path ++ first ≠ [] := (h.isName_append hfirst).ne_nil
  have hpieces := h.splitAt_normalize_append hsplit
  rw [← heq] at hpieces
  have hne : resolved (path ++ text) ≠ [] := by
    intro hnil
    rw [normalize_of_resolved_nil hnil] at hpieces
    have hempty : fileName path ++ first ∈ splitAt '/' [] :=
      hpieces ▸ List.mem_append_right _ List.mem_cons_self
    exact hfile (List.mem_singleton.mp hempty)
  rw [Path.splitAt_normalize hne] at hpieces
  -- In the book nothing is left of the resolution but names.
  obtain ⟨names, rfl, hnames⟩ := exists_names_of_append hpieces.symm hfile (closed_cases _)
  exact ⟨first, names, _, hsplit, hfirst,
    fun name hn => isName_of_mem_resolved hin (hnames name hn), closed_cases _⟩

end HasFile

end File

end Folio.Path
