/-!
# Order of texts

Texts are ordered by their first difference, code point by code point; a text comes before its
continuations. The order is total, and two texts that each come first are the same.
-/

namespace Folio.Text

/-- Whether a text comes before another one or equals it. -/
def inOrder : List Char → List Char → Bool
  | [], _ => true
  | _ :: _, [] => false
  | c :: cs, d :: ds => c.toNat < d.toNat || (c = d && inOrder cs ds)

/-- Of two texts one comes first. -/
theorem inOrder_total (s t : List Char) : inOrder s t ∨ inOrder t s := by
  induction s generalizing t with
  | nil => exact .inl rfl
  | cons c cs ih =>
    cases t with
    | nil => exact .inr rfl
    | cons d ds =>
      simp only [inOrder, Bool.or_eq_true, Bool.and_eq_true, decide_eq_true_eq]
      rcases Nat.lt_trichotomy c.toNat d.toNat with h | h | h
      · exact .inl (.inl h)
      · have hcd : c = d := Char.toNat_inj.mp h
        exact (ih ds).imp (fun hs => .inr ⟨hcd, hs⟩) fun hs => .inr ⟨hcd.symm, hs⟩
      · exact .inr (.inl h)

/-- Two texts that each come first are the same. -/
theorem inOrder_antisymm {s t : List Char} (hst : inOrder s t) (hts : inOrder t s) : s = t := by
  induction s generalizing t with
  | nil =>
    cases t with
    | nil => rfl
    | cons d ds => simp [inOrder] at hts
  | cons c cs ih =>
    cases t with
    | nil => simp [inOrder] at hst
    | cons d ds =>
      simp only [inOrder, Bool.or_eq_true, Bool.and_eq_true, decide_eq_true_eq] at hst hts
      rcases hst with h | ⟨rfl, h⟩
      · rcases hts with h' | ⟨rfl, _⟩ <;> omega
      · rcases hts with h' | ⟨_, h'⟩
        · omega
        · rw [ih h h']

/-- What comes before an earlier text comes before a later one. -/
theorem inOrder_trans {s t u : List Char} (hst : inOrder s t) (htu : inOrder t u) :
    inOrder s u := by
  induction s generalizing t u with
  | nil => rfl
  | cons c cs ih =>
    cases t with
    | nil => simp [inOrder] at hst
    | cons d ds =>
      cases u with
      | nil => simp [inOrder] at htu
      | cons e es =>
        simp only [inOrder, Bool.or_eq_true, Bool.and_eq_true, decide_eq_true_eq] at hst htu ⊢
        rcases hst with h | ⟨rfl, h⟩
        · rcases htu with h' | ⟨rfl, _⟩
          · exact .inl (Nat.lt_trans h h')
          · exact .inl h
        · exact htu.imp_right fun ⟨he, h'⟩ => ⟨he, ih h h'⟩

end Folio.Text
