import Folio.Proofs.Footnote.Numbering
import Folio.Proofs.Text.Escaped

/-!
# Labels of footnotes

Ids are made of escaped labels and numbers. The label is read back from its escaped form and the
number stands behind the last hyphen, so two references share an id only if they have one label and
one number, also if a label holds hyphens and digits or spells out an entity.
-/

namespace Folio.Footnote

open Folio.Text

/-- Labels are told apart by the names that ids spell. -/
theorem escapedName_inj {first second : Token} :
    escapedName first = escapedName second ↔ first.label.getD "" = second.label.getD "" := by
  rw [escapedName, escapedName, String.ofList_inj, escapeSpecial_injective.eq_iff,
    String.toList_inj]

/-- The superscript for a reference carries the label and the number of the reference. -/
theorem superscriptId_escapedName (token : Token) (number count : Nat) :
    superscriptId (superscript ⟨escapedName token, number, count⟩) =
      referenceId (escapedName token) count :=
  superscriptId_superscript (quote_not_mem_escapedName token)

/-- A reference is counted under the escaped name of its label, as one more than those before. -/
theorem exists_countReference_eq (name : String) (usages : List Usage) :
    ∃ number, (countReference name 1 usages).1 = ⟨name, number, occurrences usages name + 1⟩ := by
  have hname := countReference_name name 1 usages
  have hcount := count_countReference name 1 usages
  cases hused : (countReference name 1 usages).1 with
  | mk used number count =>
    rw [hused] at hname hcount
    obtain rfl : used = name := hname
    obtain rfl : count = occurrences usages used + 1 := hcount
    exact ⟨number, rfl⟩

/-- Labels never merge. What escaping makes of a text is read back, so texts are told apart by it,
and it gives just the texts that hold no quote, no angle bracket, no backslash and no ampersand but
in front of an entity. The superscripts of two references share an id exactly if the references
have the same label and the same number among the references to it. -/
theorem labels_apart :
    (∀ label, decodeSpecial (escapeSpecial label) = label) ∧
      (∀ label other, escapeSpecial label = escapeSpecial other ↔ label = other) ∧
      (∀ text, (∃ label, escapeSpecial label = text) ↔ IsEscaped text) ∧
      (∀ (token : Token) (usages : List Usage), ∃ number,
        (countReference (escapedName token) 1 usages).1 =
          ⟨escapedName token, number, occurrences usages (escapedName token) + 1⟩) ∧
      ∀ (first second : Token) (number other j k : Nat),
        superscriptId (superscript ⟨escapedName first, number, j⟩) =
            superscriptId (superscript ⟨escapedName second, other, k⟩) ↔
          first.label.getD "" = second.label.getD "" ∧ j = k := by
  refine ⟨decodeSpecial_escapeSpecial, fun _ _ => escapeSpecial_injective.eq_iff,
    fun _ => isEscaped_iff.symm, fun token => exists_countReference_eq (escapedName token), ?_⟩
  intro first second number other j k
  rw [superscriptId_escapedName, superscriptId_escapedName, referenceId_inj, escapedName_inj]

/-- A label that spells out an entity is told apart from the character that the entity stands for,
and digits of a label from the number behind it. -/
example :
    let named (label : String) : Token := { kind := .footnoteReference, label := some label }
    superscriptId (superscript ⟨escapedName (named "<-1"), 1, 2⟩) = "fr-&lt;-1-2" ∧
      superscriptId (superscript ⟨escapedName (named "&lt;"), 1, 12⟩) = "fr-&amp;lt;-12" := by
  decide

end Folio.Footnote
