import Folio.Proofs.Path.Normal

/-!
# The canonical form of paths

The normal form of a path is made of what its segments come to: the climbs, behind them the names,
and a slash at the end if the path has one there. It shows that the path leaves the book exactly if
there are climbs, and these are left if the path is not rooted and goes up more often than down at
some point.
-/

namespace Folio.Path

open Folio.Text

/-- What the segments of a path come to is its resolution. -/
theorem ComesTo.resolved_eq {path : List Char} {climbs : Nat} {names : List (List Char)}
    (h : ComesTo (isRooted path) (segmentsOf path) climbs names) :
    resolved path = List.replicate climbs up ++ names := h.resolve_eq

/-- A path that resolution leaves nothing of is empty in normal form. -/
theorem normalize_of_resolved_nil {path : List Char} (h : resolved path = []) :
    normalize path = [] := by
  rw [normalize_eq, h]
  exact if_neg fun hc => hc.2 rfl

/-- What a slash at the end of a path closes: an empty segment. -/
def closed (path : List Char) : List (List Char) := if path.getLast? = some '/' then [[]] else []

theorem closed_cases (path : List Char) : closed path = [] ∨ closed path = [[]] := by
  rw [closed]
  split
  · exact Or.inr rfl
  · exact Or.inl rfl

/-- The segments of a normal form are the resolved ones, and an empty one if a slash closes it. -/
theorem splitAt_normalize {path : List Char} (h : resolved path ≠ []) :
    splitAt '/' (normalize path) = resolved path ++ closed path := by
  obtain ⟨climbs, names, hsettled, -⟩ := exists_settled_resolved path
  have hsplit : splitAt '/' (joinWith ['/'] (resolved path)) = resolved path :=
    splitAt_joinWith h fun _ hs => (hsettled.withinSegment hs).1
  have hne : joinWith ['/'] (resolved path) ≠ [] := joinWith_ne_nil h fun _ => hsettled.ne_nil
  rw [normalize_eq, closed]
  by_cases hslash : path.getLast? = some '/'
  · rw [if_pos ⟨hslash, hne⟩, if_pos hslash, splitAt_append_mark, hsplit]
    rfl
  · rw [if_neg fun hc => hslash hc.1, if_neg hslash, hsplit, List.append_nil]

/-- A path that begins with a climb leaves the book. -/
theorem escapesRoot_of_splitAt {path : List Char} {rest : List (List Char)}
    (h : splitAt '/' path = up :: rest) : escapesRoot path = true := by
  rw [← joinWith_splitAt '/' path, h, escapesRoot]
  cases rest with
  | nil => rfl
  | cons next rest =>
    have hfront : (up ++ ['/']).isPrefixOf (joinWith ['/'] (up :: next :: rest)) = true := by
      rw [List.isPrefixOf_iff_prefix, joinWith]
      exact List.prefix_append _ _
    rw [hfront, Bool.or_true, Bool.true_or]

/-- A normal form leaves the book exactly if it has climbs. -/
theorem ComesTo.escapesRoot_normalize {path : List Char} {climbs : Nat} {names : List (List Char)}
    (h : ComesTo (isRooted path) (segmentsOf path) climbs names) :
    escapesRoot (normalize path) = true ↔ 0 < climbs := by
  constructor
  · intro hesc
    have hup := up_mem_of_escapesRoot hesc
    have hne : resolved path ≠ [] := by
      intro hnil
      rw [normalize_of_resolved_nil hnil] at hup
      exact absurd hup (by decide)
    rw [splitAt_normalize hne, h.resolved_eq, List.append_assoc, List.mem_append,
      List.mem_append] at hup
    rcases hup with hclimb | hname | hempty
    · exact Nat.pos_of_ne_zero (List.mem_replicate.mp hclimb).1
    · exact absurd hname h.up_not_mem
    · rcases closed_cases path with hclosed | hclosed
      · exact absurd (hclosed ▸ hempty) List.not_mem_nil
      · exact absurd (List.mem_singleton.mp (hclosed ▸ hempty)) (by decide)
  · intro hpos
    obtain ⟨more, rfl⟩ := Nat.exists_eq_succ_of_ne_zero (Nat.pos_iff_ne_zero.mp hpos)
    have hresolved : resolved path = up :: (List.replicate more up ++ names) := h.resolved_eq
    have hne : resolved path ≠ [] := hresolved ▸ List.cons_ne_nil _ _
    have hsplit := splitAt_normalize hne
    rw [hresolved] at hsplit
    exact escapesRoot_of_splitAt hsplit

/-- A path in the book is resolved to names. -/
theorem isName_of_mem_resolved {path : List Char} (h : escapesRoot (normalize path) = false)
    {name : List Char} (hn : name ∈ resolved path) : IsName name := by
  obtain ⟨climbs, names, hcomes⟩ := exists_comesTo (isRooted path) (segmentsOf path)
  have hclimbs : climbs = 0 := by
    by_contra hne
    exact Bool.eq_false_iff.mp h (hcomes.escapesRoot_normalize.mpr (Nat.pos_of_ne_zero hne))
  rw [hcomes.resolved_eq, hclimbs] at hn
  exact (hcomes.settled fun _ => withinSegment_of_mem_segmentsOf).isName name hn

/-- Whether a path leaves the book can be read off its segments. -/
theorem escapesRoot_normalize_iff (path : List Char) :
    escapesRoot (normalize path) = true ↔ isRooted path = false ∧ GoesAbove (segmentsOf path) := by
  obtain ⟨climbs, names, h⟩ := exists_comesTo (isRooted path) (segmentsOf path)
  rw [h.escapesRoot_normalize, h.climbs_pos_iff]

/-- Normalization gives the canonical form. The segments of a path come to climbs and names in one
way only; the normal form is these joined by slashes, closed by a slash if the path ends with one
and anything is left. The names are free of slashes of either kind, a rooted path has no climbs, and
normalization is stable. The normal form leaves the book exactly if the path is not rooted and goes
up more often than down at some point. -/
theorem normalize_canonical (path : List Char) :
    ∃ climbs names body,
      (∀ climbs' names', ComesTo (isRooted path) (segmentsOf path) climbs' names' ↔
        climbs' = climbs ∧ names' = names) ∧
      (∀ name ∈ names, IsName name) ∧
      body = joinWith ['/'] (List.replicate climbs up ++ names) ∧
      normalize path = (if path.getLast? = some '/' ∧ body ≠ [] then body ++ ['/'] else body) ∧
      (isRooted path = true → climbs = 0) ∧
      normalize (normalize path) = normalize path ∧
      (escapesRoot (normalize path) = true ↔
        isRooted path = false ∧ GoesAbove (segmentsOf path)) := by
  obtain ⟨climbs, names, h⟩ := exists_comesTo (isRooted path) (segmentsOf path)
  refine ⟨climbs, names, joinWith ['/'] (resolved path), fun climbs' names' => ⟨h.unique, ?_⟩, ?_,
    ?_, normalize_eq path, h.climbs_eq_zero, normalize_normalize path,
    escapesRoot_normalize_iff path⟩
  · rintro ⟨rfl, rfl⟩
    exact h
  · exact (h.settled fun _ => withinSegment_of_mem_segmentsOf).isName
  · rw [h.resolved_eq]

/-- A path that leaves the book behind a directory it enters. -/
example : normalize "a/./b/../..//../c\\d/".toList = "../c/d/".toList ∧
    escapesRoot "../c/d/".toList = true := by decide

end Folio.Path
