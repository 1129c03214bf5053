import Folio.Text.Case

/-!
# What lower-casing keeps

Lower-casing writes at least one character for each, and the signs below the letters are written
only for themselves. So marks such as the slash and the number sign are neither lost nor made, and
what stands on one side of a hyphen is lower-cased whatever stands on the other.
-/

namespace Folio.Text

/-- The code point of the first letter; slashes, dots, hyphens and number signs lie below it. -/
def firstLetter : Nat := 0x41

private theorem lowerRuns_image : ∀ run ∈ lowerRuns,
    firstLetter ≤ run.first + run.shift ∧
      (run.last + run.shift < 0xd800 ∨
        0xdfff < run.first + run.shift ∧ run.last + run.shift < 0x110000) := by
  decide +kernel

private theorem toNat_ofNat {n : Nat} (h : n.isValidChar) : (Char.ofNat n).toNat = n := by
  rw [Char.ofNat, dif_pos h]
  rfl

/-- No run maps a code point below the letters. -/
theorem firstLetter_le_image {run : CaseRun} (h : run ∈ lowerRuns) {n : Nat}
    (hn : run.covers n = true) : firstLetter ≤ (run.image n).toNat := by
  obtain ⟨hlow, hhigh⟩ := lowerRuns_image run h
  simp only [CaseRun.covers, Bool.and_eq_true, decide_eq_true_eq] at hn
  obtain ⟨⟨hfirst, hlast⟩, -⟩ := hn
  have hvalid : (n + run.shift).toNat.isValidChar := by
    simp only [Nat.isValidChar]
    omega
  rw [CaseRun.image, toNat_ofNat hvalid]
  omega

/-- No capital has a sign below the letters as its lower-case form. -/
theorem toLower_eq_self {c : Char} (h : c.toLower.toNat < firstLetter) : c.toLower = c := by
  by_cases hupper : c.val ≥ 'A'.val ∧ c.val ≤ 'Z'.val
  · have hshifted : c.toLower = _ := dif_pos hupper
    rw [hshifted] at h
    have hlow : 65 ≤ c.val.toNat := hupper.1
    have hhigh : c.val.toNat ≤ 90 := hupper.2
    have hsum : (c.val.toNat + 32) % 2 ^ 32 < 65 := h
    omega
  · exact dif_neg hupper

/-- Every character has a lower-case form. -/
theorem lowerChar_ne_nil (c : Char) : lowerChar c ≠ [] := by
  rw [lowerChar]
  split
  · exact List.cons_ne_nil _ _
  · split
    · exact List.cons_ne_nil _ _
    · split <;> exact List.cons_ne_nil _ _

/-- A sign below the letters stands only in its own lower-case form. -/
theorem eq_of_mem_lowerChar {c d : Char} (h : d ∈ lowerChar c) (hd : d.toNat < firstLetter) :
    d = c := by
  rw [lowerChar] at h
  split at h
  · have he := List.mem_singleton.mp h
    rw [he] at hd ⊢
    exact toLower_eq_self hd
  · split at h
    · have hge : firstLetter ≤ d.toNat := by
        rcases List.mem_cons.mp h with rfl | h
        · decide
        · rw [List.mem_singleton.mp h]
          decide
      omega
    · split at h
      · rename_i run hrun
        have hge : firstLetter ≤ d.toNat := by
          rw [List.mem_singleton.mp h]
          exact firstLetter_le_image (List.mem_of_find?_eq_some hrun)
            (List.find?_some (p := fun r : CaseRun => r.covers c.toNat) hrun)
        omega
      · exact List.mem_singleton.mp h

/-- It is its own lower-case form. -/
theorem lowerChar_eq_self {c : Char} (h : c.toNat < firstLetter) : lowerChar c = [c] := by
  have hlow : c.val < 128 := Nat.lt_trans h (by decide)
  have hnot : ¬ (c.val ≥ 'A'.val ∧ c.val ≤ 'Z'.val) := fun hupper => Nat.not_le.mpr h hupper.1
  have hself : c.toLower = c := dif_neg hnot
  rw [lowerChar, if_pos hlow, hself]

/-- A character whose lower-case form begins with it is that form. -/
theorem lowerChar_eq_singleton {c : Char} (h : (lowerChar c).head? = some c) :
    lowerChar c = [c] := by
  by_cases hlow : c.val < 128
  · rw [lowerChar, if_pos hlow] at h ⊢
    rw [Option.some.inj h]
  · by_cases hc : c.toNat = 0x130
    · rw [lowerChar, if_neg hlow, if_pos hc] at h
      rw [← Option.some.inj h] at hc
      exact absurd hc (by decide)
    · rw [lowerChar, if_neg hlow, if_neg hc] at h ⊢
      split at h <;> rw [Option.some.inj h]

/-- What lower-casing writes for one character, and behind which it goes on. -/
theorem lowerFrom_cons (cased : Bool) (c : Char) (cs : List Char) :
    ∃ image after, lowerFrom cased (c :: cs) = image ++ lowerFrom after cs ∧ image ≠ [] ∧
      (∀ d ∈ image, d.toNat < firstLetter → d = c) ∧
      (image.head? = some c → image = [c]) := by
  refine ⟨_, _, rfl, ?_⟩
  by_cases hc : c = capitalSigma
  · subst hc
    rw [if_pos rfl]
    refine ⟨List.cons_ne_nil _ _, fun d hd hlow => ?_, fun h => ?_⟩
    · rw [List.mem_singleton.mp hd] at hlow
      split at hlow <;> exact absurd hlow (by decide)
    · rw [List.head?_cons, Option.some.injEq] at h
      split at h <;> exact absurd h (by decide)
  · rw [if_neg hc]
    exact ⟨lowerChar_ne_nil c, fun d => eq_of_mem_lowerChar, lowerChar_eq_singleton⟩

/-- A sign below the letters is written as it is. -/
theorem lowerFrom_cons_sign {c : Char} (h : c.toNat < firstLetter) (cased : Bool)
    (cs : List Char) : ∃ after, lowerFrom cased (c :: cs) = c :: lowerFrom after cs := by
  have hsigma : c ≠ capitalSigma := by
    rintro rfl
    exact absurd h (by decide)
  rw [lowerFrom, if_neg hsigma, lowerChar_eq_self h]
  exact ⟨_, rfl⟩

private theorem mem_of_mem_lowerFrom {cs : List Char} {d : Char} (cased : Bool)
    (h : d ∈ lowerFrom cased cs) (hd : d.toNat < firstLetter) : d ∈ cs := by
  induction cs generalizing cased with
  | nil => exact h
  | cons c cs ih =>
    obtain ⟨image, after, heq, -, hlow, -⟩ := lowerFrom_cons cased c cs
    rw [heq, List.mem_append] at h
    rcases h with h | h
    · rw [hlow d h hd]
      exact List.mem_cons_self ..
    · exact List.mem_cons_of_mem c (ih after h)

/-- Lower-casing makes no sign below the letters. -/
theorem mem_of_mem_lower {cs : List Char} {d : Char} (h : d ∈ lower cs)
    (hd : d.toNat < firstLetter) : d ∈ cs := mem_of_mem_lowerFrom false h hd

private theorem length_lowerFrom (cased : Bool) (cs : List Char) :
    (lowerFrom cased cs).length = (cs.flatMap lowerChar).length := by
  induction cs generalizing cased with
  | nil => rfl
  | cons c cs ih =>
    rw [lowerFrom, List.flatMap_cons, List.length_append, List.length_append, ih]
    by_cases hc : c = capitalSigma
    · -- Both forms of the sigma are one character.
      have hsigma : (lowerChar capitalSigma).length = 1 := by decide +kernel
      rw [if_pos hc, hc, hsigma]
      rfl
    · rw [if_neg hc]

/-- How long a text is in lower case does not depend on where its characters stand. -/
theorem length_lower (cs : List Char) :
    (lower cs).length = (cs.flatMap lowerChar).length := length_lowerFrom false cs

/-- Without a capital sigma the parts of a text are lower-cased one by one. -/
theorem lower_append {s t : List Char} (hs : capitalSigma ∉ s) (ht : capitalSigma ∉ t) :
    lower (s ++ t) = lower s ++ lower t := by
  have hst : capitalSigma ∉ s ++ t := by
    rw [List.mem_append, not_or]
    exact ⟨hs, ht⟩
  rw [lower_eq_flatMap hs, lower_eq_flatMap ht, lower_eq_flatMap hst, List.flatMap_append]

/-- Lower-casing keeps how often a sign below the letters stands in a text. -/
theorem count_lower {d : Char} (hd : d.toNat < firstLetter) (cs : List Char) :
    (lower cs).count d = cs.count d := by
  rw [lower]
  generalize false = cased
  induction cs generalizing cased with
  | nil => rfl
  | cons c cs ih =>
    by_cases hcd : c = d
    · subst hcd
      obtain ⟨after, heq⟩ := lowerFrom_cons_sign hd cased cs
      rw [heq, List.count_cons_self, List.count_cons_self, ih]
    · obtain ⟨image, after, heq, -, hlow, -⟩ := lowerFrom_cons cased c cs
      have himage : image.count d = 0 :=
        List.count_eq_zero.mpr fun hmem => hcd (hlow d hmem hd).symm
      rw [heq, List.count_append, himage, Nat.zero_add, ih, List.count_cons_of_ne hcd]

/-- A text that begins its own lower-case form is that form. -/
theorem lower_eq_self_of_isPrefix {cs : List Char} (h : cs <+: lower cs) : lower cs = cs := by
  rw [lower] at h ⊢
  generalize false = cased at h ⊢
  induction cs generalizing cased with
  | nil => rfl
  | cons c cs ih =>
    obtain ⟨image, after, heq, hne, -, hhead⟩ := lowerFrom_cons cased c cs
    obtain ⟨first, rest, rfl⟩ := List.exists_cons_of_ne_nil hne
    rw [heq, List.cons_append, List.cons_prefix_cons] at h
    obtain ⟨rfl, hrest⟩ := h
    obtain rfl := (List.cons.inj (hhead rfl)).2
    rw [heq, List.cons_append, List.nil_append, ih after hrest]

/-- Small letters and signs are their own lower-case form. -/
theorem lower_eq_self_of_small {cs : List Char} (h : ∀ c ∈ cs, c.val < 128 ∧ c.toLower = c) :
    lower cs = cs := by
  have hsigma : capitalSigma ∉ cs := fun hs => absurd (h _ hs).1 (by decide)
  rw [lower_eq_flatMap hsigma]
  induction cs with
  | nil => rfl
  | cons c cs ih =>
    rw [List.forall_mem_cons] at h
    rw [List.flatMap_cons, ih h.2 fun hs => hsigma (List.mem_cons_of_mem c hs), lowerChar,
      if_pos h.1.1, h.1.2, List.singleton_append]

section Hyphen

/-- A hyphen is no letter, nor a mark within a word. -/
private theorem hyphen_uncased : inRanges caseIgnorableRanges ('-').toNat = false ∧
    inRanges casedRanges ('-').toNat = false := by
  decide +kernel

private theorem startsCased_append_hyphen (s t : List Char) :
    startsCased (s ++ '-' :: t) = startsCased s := by
  have hhyphen : startsCased ('-' :: t) = false := by
    rw [startsCased, hyphen_uncased.1, hyphen_uncased.2]
    rfl
  induction s with
  | nil => exact hhyphen
  | cons c s ih => rw [List.cons_append, startsCased, startsCased, ih]

/-- A hyphen parts words, so what stands on one side of it does not bear on the other. -/
theorem lower_append_hyphen (s t : List Char) :
    lower (s ++ '-' :: t) = lower s ++ '-' :: lower t := by
  rw [lower, lower]
  generalize false = cased
  induction s generalizing cased with
  | nil =>
    have hhyphen : lowerFrom cased ('-' :: t) = '-' :: lower t := by
      rw [lowerFrom, if_neg (by decide), lowerChar_eq_self (by decide), hyphen_uncased.1,
        hyphen_uncased.2]
      rfl
    exact hhyphen
  | cons c s ih =>
    rw [List.cons_append, lowerFrom, lowerFrom, startsCased_append_hyphen, ih, List.append_assoc]

end Hyphen

end Folio.Text
