import Folio.Proofs.Anchor.Run

/-!
# Ids that repeat

The counter only looks at slugs, so it hands out an id twice exactly if a slug spells another one
with one of the numbers that the other one gets.
-/

namespace Folio.Anchor

/-- No slug of a list spells another one with a number that the other one gets. -/
def IsUnambiguous (bases : List (List Char)) : Prop :=
  ∀ base ∈ bases, ∀ other n, 0 < n → n < bases.count other →
    base ≠ other ++ '-' :: Nat.toDigits 10 n

section Page

variable (page : List Char) (bases : List (List Char))

/-- A slug gets as many numbers as it has occurrences, from the number on that it has been seen
before. -/
theorem mem_issuedFrom_iff (seen : List (List Char)) (issued : Issued) :
    issued ∈ issuedFrom seen (bases.map (page, ·)) ↔
      issued.page = page ∧ seen.count issued.slug ≤ issued.number ∧
        issued.number < seen.count issued.slug + bases.count issued.slug := by
  obtain ⟨own, base, n⟩ := issued
  induction bases generalizing seen with
  | nil =>
    rw [List.map_nil, issuedFrom, List.count_nil]
    simp
  | cons first rest ih =>
    rw [List.map_cons, issuedFrom, List.mem_cons, ih, Issued.mk.injEq, ← and_or_left]
    dsimp only
    rw [List.count_cons, List.count_cons]
    refine and_congr_right fun _ => ?_
    by_cases h : first = base
    · subst h
      simp only [true_and, beq_self_eq_true, if_true]
      omega
    · simp [h, Ne.symm h]

/-- If none has been seen before, the numbers are those below the number of its occurrences. -/
theorem mem_issuedFrom_nil_iff (issued : Issued) :
    issued ∈ issuedFrom [] (bases.map (page, ·)) ↔
      issued.page = page ∧ issued.number < bases.count issued.slug := by
  rw [mem_issuedFrom_iff, List.count_nil]
  simp

/-- The names that the slugs of one page get are pairwise different exactly if the slugs are
unambiguous. -/
theorem nodup_map_name_iff :
    ((issuedFrom [] (bases.map (page, ·))).map Issued.name).Nodup ↔ IsUnambiguous bases := by
  rw [List.nodup_map_iff_inj_on (nodup_issuedFrom _ _)]
  constructor
  · intro hinj base hbase other n hpos hn hspelled
    have hplain := (mem_issuedFrom_nil_iff page bases ⟨page, base, 0⟩).mpr
      ⟨rfl, List.count_pos_iff.mpr hbase⟩
    have hnumbered := (mem_issuedFrom_nil_iff page bases ⟨page, other, n⟩).mpr ⟨rfl, hn⟩
    have hname : Issued.name ⟨page, base, 0⟩ = Issued.name ⟨page, other, n⟩ :=
      numbered_eq_numbered_iff.mpr (Or.inr (Or.inl ⟨rfl, Nat.ne_of_gt hpos, hspelled⟩))
    have hsame := hinj _ hplain _ hnumbered hname
    exact Nat.ne_of_lt hpos (congrArg Issued.number hsame)
  · rintro hclear ⟨_, base, m⟩ hfirst ⟨_, other, n⟩ hsecond hname
    rw [mem_issuedFrom_nil_iff] at hfirst hsecond
    dsimp only at hfirst hsecond
    obtain ⟨rfl, hfirst⟩ := hfirst
    obtain ⟨rfl, hsecond⟩ := hsecond
    rcases numbered_eq_numbered_iff.mp hname with
      ⟨hbase, hnumber⟩ | ⟨-, hn, hspelled⟩ | ⟨-, hm, hspelled⟩
    · exact congrArg₂ (Issued.mk _) hbase hnumber
    · have hbase := List.count_pos_iff.mp (Nat.zero_lt_of_lt hfirst)
      exact absurd hspelled (hclear base hbase other n (Nat.pos_of_ne_zero hn) hsecond)
    · have hother := List.count_pos_iff.mp (Nat.zero_lt_of_lt hsecond)
      exact absurd hspelled (hclear other hother base m (Nat.pos_of_ne_zero hm) hfirst)

end Page

/-- The ids of a run are the slugs with the numbers that come after those seen before. -/
theorem issueAll_eq_issuedFrom (contents : List (List Char)) {counter : Counter}
    {seen : List (List Char)} (hseen : ∀ base, counter.count base = seen.count base) :
    (issueAll counter contents).1 =
      (issuedFrom seen ((contents.map slug).map ([], ·))).map Issued.name := by
  induction contents generalizing counter seen with
  | nil => rfl
  | cons content rest ih =>
    have hnext : ∀ base,
        (issue counter content).2.count base = (slug content :: seen).count base := by
      intro base
      rw [count_issue, hseen, List.count_singleton, List.count_cons, Int.natCast_add]
    have hfirst : (issue counter content).1 =
        numbered (slug content) (seen.count (slug content)) := by rw [← hseen, issue]
    simp only [issueAll, ih hnext, hfirst, List.map_cons, issuedFrom, Issued.name]

/-- A counter that has seen nothing hands out an id twice exactly if the slugs are ambiguous. -/
theorem nodup_issueAll_iff (contents : List (List Char)) :
    (issueAll {} contents).1.Nodup ↔ IsUnambiguous (contents.map slug) := by
  have hseen : ∀ base, Counter.count {} base = ([] : List (List Char)).count base := fun _ => rfl
  rw [issueAll_eq_issuedFrom contents hseen, nodup_map_name_iff]

end Folio.Anchor
