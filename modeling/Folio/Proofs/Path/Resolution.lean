import Folio.Path.Normal
import Mathlib.Data.List.Induction

/-!
# What the segments of a path come to

Read one after the other, the segments of a path enter directories and leave them again. Where there
is no directory left to leave, a path climbs above the place it starts from, unless that is the
root. Resolution against a stack gives the climbs and behind them the names that lead down, and
there are climbs exactly if the path goes up more often than down at some point.
-/

namespace Folio.Path

/-- Whether a segment leads down: it is neither empty nor made of one or two dots. -/
def leadsDown (segment : List Char) : Bool :=
  decide (segment ≠ [] ∧ segment ≠ ['.'] ∧ segment ≠ up)

theorem leadsDown_iff {segment : List Char} :
    leadsDown segment = true ↔ segment ≠ [] ∧ segment ≠ ['.'] ∧ segment ≠ up := decide_eq_true_iff

section Step

variable {segment : List Char} (rooted : Bool) (stack : List (List Char))

/-- A segment that leads nowhere changes no stack. -/
theorem resolveStep_skip (h : segment = [] ∨ segment = ['.']) :
    resolveStep rooted stack segment = stack := if_pos h

/-- A segment that leads down is put on the stack. -/
theorem resolveStep_down (h : leadsDown segment = true) :
    resolveStep rooted stack segment = segment :: stack := by
  obtain ⟨hne, hdot, hup⟩ := leadsDown_iff.mp h
  unfold resolveStep
  rw [if_neg (not_or.mpr ⟨hne, hdot⟩), if_neg hup]

/-- Two dots take off a name on top of the stack. -/
theorem resolveStep_up_name (h : leadsDown segment = true) :
    resolveStep rooted (segment :: stack) up = stack := if_neg (leadsDown_iff.mp h).2.2

/-- Two dots are put on a stack of climbs. -/
theorem resolveStep_up_climbs (climbs : Nat) :
    resolveStep false (List.replicate climbs up) up = List.replicate (climbs + 1) up := by
  cases climbs <;> rfl

end Step

/-- Resolution of one segment puts nothing on the stack but that segment. -/
theorem resolveStep_subset (rooted : Bool) (stack : List (List Char)) (segment : List Char) :
    resolveStep rooted stack segment ⊆ segment :: stack := by
  unfold resolveStep
  split
  · exact List.subset_cons_self segment stack
  · split
    · rename_i hup
      subst hup
      cases stack with
      | nil =>
        cases rooted with
        | true => exact List.nil_subset _
        | false => exact List.Subset.refl _
      | cons top below =>
        by_cases htop : top = up
        · simp [htop]
        · simp [htop]
    · exact List.Subset.refl _

/-- So every segment that resolution leaves is one of the path. -/
theorem resolve_subset (rooted : Bool) (segments : List (List Char)) :
    resolve rooted segments ⊆ segments := by
  induction segments using List.reverseRecOn with
  | nil => exact List.nil_subset _
  | append_singleton segments segment ih =>
    intro other hother
    rw [resolve, List.foldl_append, List.foldl_cons, List.foldl_nil, List.mem_reverse] at hother
    rcases List.mem_cons.mp (resolveStep_subset rooted _ _ hother) with rfl | hstack
    · exact List.mem_append_right _ List.mem_cons_self
    · exact List.mem_append_left _ (ih (List.mem_reverse.mpr hstack))

/-- What segments come to, read one after the other: how often they climb above the place they start
from, and the names that lead down from there. -/
inductive ComesTo (rooted : Bool) : List (List Char) → Nat → List (List Char) → Prop
  | start : ComesTo rooted [] 0 []
  /-- Empty segments and single dots lead nowhere. -/
  | stay {segments names : List (List Char)} {climbs : Nat} {segment : List Char}
      (h : ComesTo rooted segments climbs names) (hskip : segment = [] ∨ segment = ['.']) :
      ComesTo rooted (segments ++ [segment]) climbs names
  | enter {segments names : List (List Char)} {climbs : Nat} {segment : List Char}
      (h : ComesTo rooted segments climbs names) (hdown : leadsDown segment = true) :
      ComesTo rooted (segments ++ [segment]) climbs (names ++ [segment])
  /-- Two dots leave the directory that was entered last. -/
  | leave {segments names : List (List Char)} {climbs : Nat} {name : List Char}
      (h : ComesTo rooted segments climbs (names ++ [name])) :
      ComesTo rooted (segments ++ [up]) climbs names
  /-- Where no directory is left to leave, two dots climb. -/
  | climb {segments : List (List Char)} {climbs : Nat} (h : ComesTo rooted segments climbs [])
      (hrooted : rooted = false) : ComesTo rooted (segments ++ [up]) (climbs + 1) []
  /-- Nothing is above the root. -/
  | atRoot {segments : List (List Char)} {climbs : Nat} (h : ComesTo rooted segments climbs [])
      (hrooted : rooted = true) : ComesTo rooted (segments ++ [up]) climbs []

/-- Every list of segments comes to something. -/
theorem exists_comesTo (rooted : Bool) (segments : List (List Char)) :
    ∃ climbs names, ComesTo rooted segments climbs names := by
  induction segments using List.reverseRecOn with
  | nil => exact ⟨0, [], .start⟩
  | append_singleton segments segment ih =>
    obtain ⟨climbs, names, h⟩ := ih
    by_cases hskip : segment = [] ∨ segment = ['.']
    · exact ⟨climbs, names, h.stay hskip⟩
    · rw [not_or] at hskip
      by_cases hup : segment = up
      · subst hup
        rcases List.eq_nil_or_concat names with rfl | ⟨front, name, rfl⟩
        · cases hrooted : rooted with
          | true => exact ⟨climbs, [], (hrooted ▸ h).atRoot rfl⟩
          | false => exact ⟨climbs + 1, [], (hrooted ▸ h).climb rfl⟩
        · rw [List.concat_eq_append] at h
          exact ⟨climbs, front, h.leave⟩
      · exact ⟨climbs, names ++ [segment], h.enter (leadsDown_iff.mpr ⟨hskip.1, hskip.2, hup⟩)⟩

namespace ComesTo

variable {rooted : Bool} {segments names : List (List Char)} {climbs : Nat}

/-- The names are segments that lead down. -/
theorem of_mem (h : ComesTo rooted segments climbs names) {name : List Char} (hn : name ∈ names) :
    name ∈ segments ∧ leadsDown name = true := by
  induction h with
  | start => exact absurd hn List.not_mem_nil
  | stay _ _ ih => exact ⟨List.mem_append_left _ (ih hn).1, (ih hn).2⟩
  | enter _ hdown ih =>
    rcases List.mem_append.mp hn with hn | hn
    · exact ⟨List.mem_append_left _ (ih hn).1, (ih hn).2⟩
    · rw [List.mem_singleton.mp hn]
      exact ⟨List.mem_append_right _ (List.mem_singleton_self _), hdown⟩
  | leave _ ih =>
    have hn' := ih (List.mem_append_left _ hn)
    exact ⟨List.mem_append_left _ hn'.1, hn'.2⟩
  | climb => exact absurd hn List.not_mem_nil
  | atRoot => exact absurd hn List.not_mem_nil

/-- Segments that lead down are entered one after the other. -/
theorem enterAll (h : ComesTo rooted segments climbs names) {others : List (List Char)}
    (hdown : ∀ name ∈ others, leadsDown name = true) :
    ComesTo rooted (segments ++ others) climbs (names ++ others) := by
  induction others using List.reverseRecOn with
  | nil =>
    rw [List.append_nil, List.append_nil]
    exact h
  | append_singleton others name ih =>
    rw [← List.append_assoc, ← List.append_assoc]
    exact (ih fun other ho => hdown other (List.mem_append_left _ ho)).enter
      (hdown name (List.mem_append_right _ (List.mem_singleton_self name)))

theorem up_not_mem (h : ComesTo rooted segments climbs names) : up ∉ names :=
  fun hup => (leadsDown_iff.mp (h.of_mem hup).2).2.2 rfl

/-- A rooted path does not climb. -/
theorem climbs_eq_zero (h : ComesTo rooted segments climbs names) (hrooted : rooted = true) :
    climbs = 0 := by
  induction h with
  | start => rfl
  | climb _ hnot => exact absurd (hnot.symm.trans hrooted) Bool.false_ne_true
  | stay _ _ ih | enter _ _ ih | leave _ ih | atRoot _ _ ih => exact ih

/-- The stack of resolution holds the names, the last one on top, and the climbs below them. -/
theorem foldl_eq (h : ComesTo rooted segments climbs names) :
    segments.foldl (resolveStep rooted) [] = names.reverse ++ List.replicate climbs up := by
  induction h with
  | start => rfl
  | stay _ hskip ih =>
    rw [List.foldl_append, ih, List.foldl_cons, List.foldl_nil, resolveStep_skip _ _ hskip]
  | enter _ hdown ih =>
    rw [List.foldl_append, ih, List.foldl_cons, List.foldl_nil, resolveStep_down _ _ hdown,
      List.reverse_append]
    rfl
  | @leave _ _ _ name h ih =>
    have hname := (h.of_mem (List.mem_append_right _ (List.mem_singleton_self name))).2
    rw [List.foldl_append, ih, List.foldl_cons, List.foldl_nil, List.reverse_append]
    exact resolveStep_up_name _ _ hname
  | climb _ hrooted ih =>
    rw [List.foldl_append, ih, List.foldl_cons, List.foldl_nil, hrooted]
    exact resolveStep_up_climbs _
  | atRoot h hrooted ih =>
    rw [List.foldl_append, ih, List.foldl_cons, List.foldl_nil, h.climbs_eq_zero hrooted, hrooted]
    rfl

/-- Resolution gives the climbs and behind them the names. -/
theorem resolve_eq (h : ComesTo rooted segments climbs names) :
    resolve rooted segments = List.replicate climbs up ++ names := by
  rw [resolve, h.foldl_eq, List.reverse_append, List.reverse_reverse, List.reverse_replicate]

/-- Segments come to one thing only. -/
theorem unique (h : ComesTo rooted segments climbs names) {climbs' : Nat}
    {names' : List (List Char)} (h' : ComesTo rooted segments climbs' names') :
    climbs' = climbs ∧ names' = names := by
  have hsame : List.replicate climbs' up ++ names' = List.replicate climbs up ++ names := by
    rw [← h'.resolve_eq, h.resolve_eq]
  have hclimbs := congrArg (List.count up) hsame
  simp only [List.count_append, List.count_replicate_self, List.count_eq_zero.mpr h.up_not_mem,
    List.count_eq_zero.mpr h'.up_not_mem, Nat.add_zero] at hclimbs
  subst hclimbs
  exact ⟨rfl, List.append_cancel_left hsame⟩

end ComesTo

section Above

/-- Whether segments go up more often than down at some point. -/
def GoesAbove (segments : List (List Char)) : Prop :=
  ∃ front, front <+: segments ∧ front.countP leadsDown < front.count up

variable {segments : List (List Char)} {segment : List Char}

theorem not_goesAbove_nil : ¬ GoesAbove [] := by
  rintro ⟨front, hfront, hlt⟩
  rw [List.prefix_nil.mp hfront] at hlt
  exact Nat.not_lt_zero _ hlt

theorem GoesAbove.append (h : GoesAbove segments) (others : List (List Char)) :
    GoesAbove (segments ++ others) := by
  obtain ⟨front, hfront, hlt⟩ := h
  exact ⟨front, hfront.trans (List.prefix_append segments others), hlt⟩

/-- The points of a path with one more segment are those without it and its end. -/
theorem goesAbove_concat_iff :
    GoesAbove (segments ++ [segment]) ↔
      GoesAbove segments ∨
        (segments ++ [segment]).countP leadsDown < (segments ++ [segment]).count up := by
  constructor
  · rintro ⟨front, hfront, hlt⟩
    rcases List.prefix_concat_iff.mp hfront with rfl | hfront
    · exact Or.inr hlt
    · exact Or.inl ⟨front, hfront, hlt⟩
  · rintro (habove | hlt)
    · exact habove.append [segment]
    · exact ⟨_, List.prefix_refl _, hlt⟩

/-- At its end a path has gone up too often only if it has done so at some point. -/
theorem goesAbove_of_lt (h : segments.countP leadsDown < segments.count up) :
    GoesAbove segments := ⟨segments, List.prefix_refl _, h⟩

/-- Only two dots lead above. -/
theorem goesAbove_concat_of_ne (h : segment ≠ up) :
    GoesAbove (segments ++ [segment]) ↔ GoesAbove segments := by
  rw [goesAbove_concat_iff, or_iff_left_iff_imp, List.count_append, List.countP_append,
    List.count_singleton]
  intro hlt
  apply goesAbove_of_lt
  simp [h] at hlt
  omega

theorem goesAbove_append_of_not_mem {others : List (List Char)} (h : up ∉ others) :
    GoesAbove (segments ++ others) ↔ GoesAbove segments := by
  induction others using List.reverseRecOn with
  | nil => rw [List.append_nil]
  | append_singleton others segment ih =>
    rw [List.mem_append, List.mem_singleton, not_or] at h
    rw [← List.append_assoc, goesAbove_concat_of_ne (Ne.symm h.2), ih h.1]

end Above

namespace ComesTo

variable {rooted : Bool} {segments names : List (List Char)} {climbs : Nat}

/-- Names count as ways down that have not been taken back, climbs as ways up beyond them. -/
theorem balance (h : ComesTo rooted segments climbs names) (hrooted : rooted = false) :
    names.length + segments.count up = climbs + segments.countP leadsDown := by
  have hup : leadsDown up = false := by decide
  induction h with
  | start => rfl
  | stay _ hskip ih =>
    rcases hskip with rfl | rfl
    · simpa [leadsDown, up] using ih
    · simpa [leadsDown, up] using ih
  | enter _ hdown ih =>
    have hne := (leadsDown_iff.mp hdown).2.2
    simp [hdown, hne]
    omega
  | leave _ ih =>
    simp [hup] at ih ⊢
    omega
  | climb _ _ ih =>
    simp [hup] at ih ⊢
    omega
  | atRoot _ hroot _ => exact absurd (hrooted.symm.trans hroot) Bool.false_ne_true

/-- A path that is not rooted climbs exactly if it goes up more often than down. -/
theorem climbs_pos_iff_goesAbove (h : ComesTo rooted segments climbs names)
    (hrooted : rooted = false) : 0 < climbs ↔ GoesAbove segments := by
  induction h with
  | start => exact iff_of_false (Nat.lt_irrefl 0) not_goesAbove_nil
  | @stay _ _ _ segment _ hskip ih =>
    have hne : segment ≠ up := by
      rintro rfl
      exact absurd hskip (by decide)
    rw [ih, goesAbove_concat_of_ne hne]
  | enter _ hdown ih => rw [ih, goesAbove_concat_of_ne (leadsDown_iff.mp hdown).2.2]
  | leave h ih =>
    -- The directory that is left has been entered, so the end is no new point above the start.
    have hbalance := h.leave.balance hrooted
    rw [ih, goesAbove_concat_iff, iff_self_or]
    intro hlt
    rw [← ih]
    omega
  | climb h hroot _ =>
    have hbalance := (h.climb hroot).balance hrooted
    refine iff_of_true (Nat.succ_pos _) (goesAbove_of_lt ?_)
    rw [List.length_nil] at hbalance
    omega
  | atRoot _ hroot _ => exact absurd (hrooted.symm.trans hroot) Bool.false_ne_true

/-- There are climbs exactly if the path is not rooted and goes up more often than down. -/
theorem climbs_pos_iff (h : ComesTo rooted segments climbs names) :
    0 < climbs ↔ rooted = false ∧ GoesAbove segments := by
  cases hrooted : rooted with
  | false => rw [h.climbs_pos_iff_goesAbove hrooted, and_iff_right rfl]
  | true =>
    rw [h.climbs_eq_zero hrooted]
    exact iff_of_false (Nat.lt_irrefl 0) fun hnot => Bool.false_ne_true hnot.1.symm

end ComesTo

end Folio.Path
