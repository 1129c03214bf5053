import Folio.Token.Basic

/-!
# Attributes of tokens

Setting an attribute changes what the attributes say under its name and nothing else; a name that is
new goes to the end.
-/

namespace Folio.Token.Attributes

variable (attrs : Attributes) (name : String) (value : Value)

/-- The names of attributes in order. -/
def names : List String := attrs.map Prod.fst

/-- An attribute that has been set is there. -/
theorem get?_set : (attrs.set name value).get? name = some value := by
  induction attrs with
  | nil => simp [set, get?]
  | cons attr rest ih =>
    obtain ⟨key, old⟩ := attr
    rw [get?] at ih
    by_cases h : key = name
    · simp [set, get?, h]
    · simp [set, get?, h, List.lookup_cons, beq_eq_false_iff_ne.mpr (Ne.symm h), ih]

/-- The other attributes stay as they are. -/
theorem get?_set_of_ne {key : String} (h : key ≠ name) :
    (attrs.set name value).get? key = attrs.get? key := by
  induction attrs with
  | nil => simp [set, get?, List.lookup_cons, beq_eq_false_iff_ne.mpr h]
  | cons attr rest ih =>
    obtain ⟨other, old⟩ := attr
    rw [get?, get?] at ih
    by_cases hother : other = name
    · subst hother
      simp [set, get?, List.lookup_cons, beq_eq_false_iff_ne.mpr h]
    · simp [set, get?, hother, List.lookup_cons, ih]

/-- A name keeps its place, and a new one goes to the end. -/
theorem names_set : (attrs.set name value).names =
    if name ∈ attrs.names then attrs.names else attrs.names ++ [name] := by
  induction attrs with
  | nil => simp [set, names]
  | cons attr rest ih =>
    obtain ⟨other, old⟩ := attr
    rw [names, names] at ih
    by_cases hother : other = name
    · simp [set, names, hother]
    · simp only [set, if_neg hother, names, List.map_cons, ih, List.mem_cons, Ne.symm hother,
        false_or]
      split <;> rfl

/-- Adding a word sets the attribute to what it has been with the word behind it. -/
theorem addWord_eq_set (word : String) :
    attrs.addWord name word = attrs.set name
      (.text (((attrs.get? name).map fun old => old.toText ++ " " ++ word).getD word)) := by
  rw [addWord]
  cases attrs.get? name <;> rfl

end Folio.Token.Attributes
