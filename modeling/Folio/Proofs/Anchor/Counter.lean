import Folio.Anchor.Counter
import Folio.Proofs.Text.LowerCase
import Folio.Proofs.Text.Numbered

/-!
# Numbered slugs

The counter keeps how often each slug has been handed out, and an id is a slug with that number
behind it. Ids of one slug differ, and ids of two slugs are the same only if one slug is the other
one with its number.
-/

namespace Folio.Anchor

open Folio.Text

section Numbered

theorem numbered_zero (base : List Char) : numbered base 0 = base := if_pos rfl

theorem numbered_of_ne_zero (base : List Char) {n : Nat} (h : n ≠ 0) :
    numbered base n = base ++ '-' :: Nat.toDigits 10 n := by
  have hn : (n : Int) ≠ 0 := Int.natCast_ne_zero.mpr h
  have hdigits : (toString (n : Int)).toList = Nat.toDigits 10 n := Nat.toList_repr
  rw [numbered, if_neg hn, hdigits]

/-- An unnumbered id is a numbered one only if the slug brings the number with it. -/
private theorem numbered_zero_eq_iff {base other : List Char} {n : Nat} :
    base = numbered other n ↔
      (base = other ∧ n = 0) ∨ (n ≠ 0 ∧ base = other ++ '-' :: Nat.toDigits 10 n) := by
  by_cases hn : n = 0
  · rw [hn, Int.ofNat_zero, numbered_zero]
    simp
  · rw [numbered_of_ne_zero other hn]
    simp [hn]

/-- When the ids of two slugs are the same. -/
theorem numbered_eq_numbered_iff {base other : List Char} {m n : Nat} :
    numbered base m = numbered other n ↔
      (base = other ∧ m = n) ∨
      (m = 0 ∧ n ≠ 0 ∧ base = other ++ '-' :: Nat.toDigits 10 n) ∨
      (n = 0 ∧ m ≠ 0 ∧ other = base ++ '-' :: Nat.toDigits 10 m) := by
  by_cases hm : m = 0
  · rw [hm, Int.ofNat_zero, numbered_zero, numbered_zero_eq_iff]
    simp [eq_comm]
  · by_cases hn : n = 0
    · rw [hn, Int.ofNat_zero, numbered_zero, eq_comm, numbered_zero_eq_iff]
      simp [hm, eq_comm]
    · rw [numbered_of_ne_zero base hm, numbered_of_ne_zero other hn, append_hyphen_toDigits_inj]
      simp [hm, hn]

/-- The ids of one slug are told apart by their numbers. -/
theorem numbered_inj {base : List Char} {m n : Nat} :
    numbered base m = numbered base n ↔ m = n := by
  rw [numbered_eq_numbered_iff]
  simp

end Numbered

section Issue

theorem count_empty (key : List Char) : Counter.count {} key = 0 := rfl

/-- Handing out an id raises the number of its slug by one. -/
theorem count_issue (counter : Counter) (content key : List Char) :
    (issue counter content).2.count key = counter.count key + [slug content].count key := by
  have hset : (issue counter content).2 =
      counter.set (slug content) (counter.count (slug content) + 1) := rfl
  rw [hset, Counter.count_set, List.count_singleton]
  by_cases h : key = slug content
  · simp [h]
  · simp [h, Ne.symm h]

/-- A number sign stands in no slug. -/
theorem mark_not_mem_slug (content : List Char) : '#' ∉ slug content := by
  rw [slug, normalizeId]
  intro hmem
  obtain ⟨c, -, hc⟩ := List.mem_filterMap.mp hmem
  rw [idChar?] at hc
  split at hc
  · rename_i hkept
    have hlower : c.toLower = '#' := Option.some.inj hc
    have hself : c.toLower = c := toLower_eq_self (by rw [hlower]; decide)
    rw [← hself, hlower] at hkept
    exact absurd hkept (by decide)
  · split at hc
    · exact absurd (Option.some.inj hc) (by decide)
    · exact absurd hc (Option.some_ne_none _).symm

/-- Nor in an id made of one. -/
theorem mark_not_mem_numbered {base : List Char} (h : '#' ∉ base) (n : Int) :
    '#' ∉ numbered base n := by
  rw [numbered]
  split
  · exact h
  · rw [List.mem_append, List.mem_cons, not_or, not_or]
    refine ⟨h, by decide, ?_⟩
    cases n with
    | ofNat m =>
      have hdigits : (toString (Int.ofNat m)).toList = Nat.toDigits 10 m := Nat.toList_repr
      rw [hdigits]
      exact not_mem_toDigits (by decide) m
    | negSucc m =>
      have hdigits : (toString (Int.negSucc m)).toList = '-' :: Nat.toDigits 10 (m + 1) := by
        change ("-" ++ (m + 1).repr).toList = _
        rw [String.toList_append, Nat.toList_repr]
        rfl
      rw [hdigits, List.mem_cons, not_or]
      exact ⟨by decide, not_mem_toDigits (by decide) (m + 1)⟩

end Issue

end Folio.Anchor
