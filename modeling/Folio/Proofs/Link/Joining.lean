import Folio.Proofs.Link.Moved
import Folio.Proofs.Path.Canonical

/-!
# Paths read from a directory

What stands behind a directory is resolved from where the directory leads. So a path that is read
from a directory is normalized to the same whether the directory has been normalized before or not,
and an entry of the redirect table may read its target from the normalized directory of a page.
-/

namespace Folio.Path

open Folio.Text

/-- What stands behind segments is resolved from what the segments come to. -/
theorem resolve_resolve_append {segments : List (List Char)}
    (h : ∀ segment ∈ segments, WithinSegment segment) (others : List (List Char)) :
    resolve false (resolve false segments ++ others) = resolve false (segments ++ others) := by
  obtain ⟨climbs, names, hsettled, -⟩ := @exists_settled_resolve false segments h
  have hstack : (resolve false segments).foldl (resolveStep false) [] =
      segments.foldl (resolveStep false) [] := List.reverse_injective hsettled.resolve_eq
  rw [resolve, List.foldl_append, hstack, ← List.foldl_append, ← resolve]

/-- Behind a slash a path is resolved from where the path in front of it leads. -/
theorem resolved_append_slash {dir : List Char} (hne : dir ≠ []) (h : isRooted dir = false)
    (rest : List Char) :
    resolved (dir ++ '/' :: rest) = resolve false (resolved dir ++ segmentsOf rest) := by
  have hwithin : ∀ segment ∈ segmentsOf dir, WithinSegment segment := fun _ =>
    withinSegment_of_mem_segmentsOf
  rw [resolved, isRooted_append hne, segmentsOf_append_slash, resolved, h,
    resolve_resolve_append hwithin]

/-- A normal form is not rooted and leads to where its path leads. -/
theorem resolved_normalize (path : List Char) :
    isRooted (normalize path) = false ∧ resolved (normalize path) = resolved path := by
  obtain ⟨climbs, names, h, -⟩ := exists_settled_resolved path
  rw [normalize_eq]
  split
  · rename_i hclosed
    have hne : resolved path ≠ [] := fun hnil => hclosed.2 (by rw [hnil]; rfl)
    have hrooted : isRooted (joinWith ['/'] (resolved path) ++ ['/']) = false := by
      rw [isRooted_append hclosed.2, h.isRooted_eq]
    refine ⟨hrooted, ?_⟩
    rw [resolved, hrooted, segmentsOf_concat_slash, resolve_concat_nil, h.segmentsOf_eq hne,
      h.resolve_eq]
  · exact ⟨h.isRooted_eq, h.resolved_eq⟩

/-- The normal form is known by where the path leads and whether a slash closes it. -/
theorem normalize_congr {path other : List Char} (h : resolved path = resolved other)
    (hclosed : path.getLast? = some '/' ↔ other.getLast? = some '/') :
    normalize path = normalize other := by
  rw [normalize_eq, normalize_eq, h]
  simp only [hclosed]

/-- A normal form is closed by a slash only if its path is. -/
theorem getLast?_normalize_ne {path : List Char} (h : path.getLast? ≠ some '/') :
    (normalize path).getLast? ≠ some '/' := by
  obtain ⟨climbs, names, hsettled, -⟩ := exists_settled_resolved path
  rw [normalize_eq, if_neg fun hc => h hc.1]
  exact hsettled.getLast?_ne

/-- The directory of a path is not closed by a slash, unless it is the root. -/
theorem getLast?_parent_ne {path : List Char} (h : path.head? ≠ some '/') :
    (parent path).getLast? ≠ some '/' := by
  have hhead : dropEndWhile (· ≠ '/') path <+: path := dropEndWhile_isPrefix _ _
  rw [parent]
  split
  · rename_i hall
    intro hlast
    obtain ⟨front, hfront⟩ := List.getLast?_eq_some_iff.mp hlast
    have hne : dropEndWhile (· ≠ '/') path ≠ [] := by rw [hfront]; exact List.concat_ne_nil _ _
    obtain ⟨c, rest, hcons⟩ := List.exists_cons_of_ne_nil hne
    rw [hcons] at hhead hall
    obtain ⟨behind, rfl⟩ := hhead
    exact h (congrArg some (of_decide_eq_true (List.all_eq_true.mp hall c List.mem_cons_self)))
  · intro hlast
    have hne : dropEndWhile (· = '/') (dropEndWhile (· ≠ '/') path) ≠ [] := by
      intro hnil
      rw [hnil, List.getLast?_nil] at hlast
      exact Option.some_ne_none _ hlast.symm
    rw [List.getLast?_eq_some_getLast hne] at hlast
    exact List.rdropWhile_last_not _ _ hne (decide_eq_true (Option.some.inj hlast))

section Behind

variable {dir other rest : List Char}

/-- Behind directories that lead to one place a path leads to one place. -/
theorem normalize_append_slash_congr (hne : dir ≠ []) (hother : other ≠ [])
    (hdir : isRooted dir = false) (hrooted : isRooted other = false)
    (h : resolved dir = resolved other) (rest : List Char) :
    normalize (dir ++ '/' :: rest) = normalize (other ++ '/' :: rest) := by
  apply normalize_congr
  · rw [resolved_append_slash hne hdir, resolved_append_slash hother hrooted, h]
  · simp

/-- A directory that leads nowhere may be left out. -/
theorem normalize_append_slash_of_resolved_nil (hne : dir ≠ []) (hdir : isRooted dir = false)
    (h : resolved dir = []) (hrest : isRooted rest = false) :
    normalize (dir ++ '/' :: rest) = normalize rest := by
  have hbehind : resolved (dir ++ '/' :: rest) = resolved rest := by
    rw [resolved_append_slash hne hdir, h, List.nil_append, resolved, hrest]
  cases rest with
  | nil => rw [normalize_of_resolved_nil hbehind]; rfl
  | cons c rest => exact normalize_congr hbehind (by simp)

end Behind

end Folio.Path

namespace Folio.Link

open Folio.Page Folio.Path Folio.Text

/-- The target of an entry is read from the normal form of the directory that the page is in. -/
theorem besidePage_eq_beside {page target : List Char} (hpage : page.head? ≠ some '/')
    (htarget : target.head? ≠ some '/') :
    besidePage page target = beside (normalize (parent page)) target := by
  have hfront : (normalize (parent page)).head? ≠ some '/' := by
    intro hhead
    obtain ⟨rest, hrest⟩ := List.head?_eq_some_iff.mp hhead
    have hrooted := (resolved_normalize (parent page)).1
    rw [hrest] at hrooted
    exact Bool.false_ne_true hrooted.symm
  rw [besidePage, dropEndWhile_mark_eq_self (getLast?_normalize_ne (getLast?_parent_ne hpage)),
    dropWhile_mark_eq_self hfront, dropWhile_mark_eq_self htarget]
  rfl

/-- A relative path leads to the same from a directory and from its normal form, which is empty if
the directory leads back to where it starts from. So an entry of the redirect table leads where its
target, with the fragment that is kept of the link, leads from the directory of the page. -/
theorem normalize_beside {dir rest : List Char} (hdir : isRooted dir = false)
    (hrest : isRooted rest = false) :
    normalize (beside dir rest) = normalize (beside (normalize dir) rest) ∧
      ∀ (entry : Redirect) (page : List Char) (fragment : Option (List Char)),
        page.head? ≠ some '/' → '#' ∉ page → parent page = dir →
        hasScheme entry.target = false →
        withFragment entry.target (keptFragment entry fragment) = rest →
        follow entry page fragment = .inBook (normalize (beside dir rest)) := by
  have hsame : normalize (beside dir rest) = normalize (beside (normalize dir) rest) := by
    obtain ⟨hrooted, hresolved⟩ := resolved_normalize dir
    by_cases hne : dir = []
    · rw [hne]
      rfl
    by_cases hempty : normalize dir = []
    · have hnil : resolved dir = [] := by
        rw [← hresolved, hempty]
        rfl
      rw [beside, beside, if_neg hne, if_pos hempty,
        normalize_append_slash_of_resolved_nil hne hdir hnil hrest]
    · rw [beside, beside, if_neg hne, if_neg hempty,
        normalize_append_slash_congr hne hempty hdir hrooted hresolved.symm]
  refine ⟨hsame, fun entry page fragment hpage hmark hparent hscheme hkept => ?_⟩
  have htarget : entry.target.head? ≠ some '/' := by
    intro hhead
    obtain ⟨target, htarget⟩ := List.head?_eq_some_iff.mp hhead
    obtain ⟨behind, hbehind⟩ := prefix_withFragment entry.target (keptFragment entry fragment)
    rw [hkept, htarget] at hbehind
    rw [← hbehind] at hrest
    exact Bool.false_ne_true hrest.symm
  have hnot : '#' ∉ normalize (parent page) := fun hmem =>
    hmark ((parent_isPrefix page).subset (mem_of_mem_normalize hmem (by decide)).1)
  rw [follow_of_not_hasScheme hscheme, besidePage_eq_beside hpage htarget,
    withFragment_beside hnot, hkept, hparent, ← hsame]

/-- A page in a directory that leads back to the top of the book. -/
theorem normalize_beside_top :
    let dir := "guide/..".toList
    let rest := "../new.html#part".toList
    let entry : Redirect := ⟨"/old.html".toList, "../new.html".toList⟩
    isRooted dir = false ∧ isRooted rest = false ∧ normalize dir = [] ∧
      normalize (beside dir rest) = normalize (beside (normalize dir) rest) ∧
      follow entry "guide/../old.html".toList (some "part".toList) = .inBook rest := by
  intro dir rest entry
  have hdir : isRooted dir = false := by decide
  have hrest : isRooted rest = false := by decide
  obtain ⟨hsame, hfollow⟩ := normalize_beside hdir hrest
  have hbook : normalize (beside dir rest) = rest := by decide
  refine ⟨hdir, hrest, by decide, hsame, ?_⟩
  rw [hfollow entry "guide/../old.html".toList (some "part".toList) (by decide) (by decide)
    (by decide) (by decide) (by decide), hbook]

/-- Nothing is above the root, so a rooted directory has to be left as it is. -/
example : normalize (beside "/..".toList "..".toList) = [] ∧
    normalize (beside (normalize "/..".toList) "..".toList) = "..".toList := by decide

end Folio.Link
