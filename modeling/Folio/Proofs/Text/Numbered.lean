import Folio.Proofs.Text.Pieces

/-!
# Numbers behind names

Ids put a number behind a name and a hyphen. Digits hold no hyphen and tell numbers apart, so name
and number are recovered from the text, even if the name itself ends with a number.
-/

namespace Folio.Text

/-- Numbers are told apart by their digits. -/
theorem toDigits_inj {m n : Nat} : Nat.toDigits 10 m = Nat.toDigits 10 n ↔ m = n := by
  constructor
  · intro h
    rw [← @Nat.ofDigitChars_ten_toDigits m, h, Nat.ofDigitChars_ten_toDigits]
  · rintro rfl
    rfl

/-- A sign that is no digit stands in no number. -/
theorem not_mem_toDigits {c : Char} (h : c.isDigit = false) (n : Nat) : c ∉ Nat.toDigits 10 n :=
  fun hc => Bool.false_ne_true
    (h.symm.trans (Nat.isDigit_of_mem_toDigits (by decide) (by decide) hc))

/-- A name and the number behind it are recovered from the text. -/
theorem append_hyphen_toDigits_inj {s t : List Char} {m n : Nat} :
    s ++ '-' :: Nat.toDigits 10 m = t ++ '-' :: Nat.toDigits 10 n ↔ s = t ∧ m = n := by
  rw [append_mark_inj (not_mem_toDigits (by decide) m) (not_mem_toDigits (by decide) n),
    toDigits_inj]

end Folio.Text
