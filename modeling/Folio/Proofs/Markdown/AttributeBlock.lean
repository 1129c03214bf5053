import Folio.Markdown.AttributeBlock
import Folio.Markdown.HeadingAttributes
import Mathlib.Data.List.Nodup

/-!
# Attribute blocks as mappings

What a block sets has every name once: a pair that comes again replaces the first one, and all
classes are one attribute. Reading keeps this from character to character.
-/

namespace Folio.Markdown

/-- A reader of blocks gives each name one value. -/
def AttributeReader.IsMapping (read? : AttributeReader) : Prop :=
  ∀ block n attributes, read? block = some (n, attributes) → (attributes.map Prod.fst).Nodup

namespace NamedAttributes

/-- No name comes twice, and the classes are not among the pairs. -/
structure IsMapping (attributes : NamedAttributes) : Prop where
  names : (attributes.pairs.map Prod.fst).Nodup
  noClass : "class" ∉ attributes.pairs.map Prod.fst

/-- A name keeps its place, and a new one goes to the end. -/
theorem names_put (name value : String) (pairs : List (String × String)) :
    (add.put name value pairs).map Prod.fst =
      if name ∈ pairs.map Prod.fst then pairs.map Prod.fst else pairs.map Prod.fst ++ [name] := by
  induction pairs with
  | nil => rfl
  | cons pair rest ih =>
    by_cases h : pair.1 = name
    · simp only [add.put, h, ite_true, List.map_cons, List.mem_cons, true_or]
    · simp only [add.put, h, ite_false, List.map_cons, ih, List.mem_cons, Ne.symm h, false_or]
      split <;> rfl

variable {attributes : NamedAttributes}

theorem IsMapping.add (h : attributes.IsMapping) (name value : List Char) :
    (attributes.add name value).IsMapping := by
  rw [NamedAttributes.add]
  by_cases hclass : String.ofList name = "class"
  · rw [if_pos hclass]
    exact ⟨h.names, h.noClass⟩
  · rw [if_neg hclass]
    constructor
    · rw [names_put]
      split
      · exact h.names
      · next hnew =>
        rw [← List.concat_eq_append]
        exact List.Nodup.concat hnew h.names
    · rw [names_put]
      split
      · exact h.noClass
      · simpa only [List.mem_append, List.mem_singleton, not_or] using ⟨h.noClass, Ne.symm hclass⟩

theorem IsMapping.toList (h : attributes.IsMapping) :
    (attributes.toList.map Prod.fst).Nodup := by
  rw [NamedAttributes.toList, List.map_append]
  cases attributes.classes.isEmpty with
  | true => simpa only [ite_true, List.map_nil, List.append_nil] using h.names
  | false =>
    rw [if_neg Bool.false_ne_true, List.map_singleton, ← List.concat_eq_append]
    exact List.Nodup.concat h.noClass h.names

end NamedAttributes

/-- Reading on adds attributes and nothing else. -/
theorem isMapping_of_readAttributesFrom? {attributes read : NamedAttributes} {state : BlockState}
    {n finish : Nat} {cs : List Char} (hread : readAttributesFrom? attributes state n cs =
      some (finish, read)) (h : attributes.IsMapping) : read.IsMapping := by
  induction cs generalizing attributes state n with
  | nil =>
    rw [readAttributesFrom?, Option.some.injEq, Prod.mk.injEq] at hread
    exact hread.2 ▸ h
  | cons c cs ih =>
    rw [readAttributesFrom?] at hread
    cases hstep : state.step c with
    | none => simp only [hstep, reduceCtorEq] at hread
    | some result =>
      obtain ⟨next, item⟩ := result
      have hadd : (item.elim attributes fun pair => attributes.add pair.1 pair.2).IsMapping := by
        cases item with
        | none => exact h
        | some pair => exact h.add pair.1 pair.2
      simp only [hstep] at hread
      split at hread
      · rw [Option.some.injEq, Prod.mk.injEq] at hread
        exact hread.2 ▸ hadd
      · exact ih hread hadd

/-- The reader of attribute blocks gives each name one value. -/
theorem readAttributes?_isMapping : AttributeReader.IsMapping readAttributes? := by
  intro block n attributes h
  rw [readAttributes?, Option.map_eq_some_iff] at h
  obtain ⟨⟨finish, read⟩, hread, heq⟩ := h
  rw [Prod.mk.injEq] at heq
  have hstart : ({} : NamedAttributes).IsMapping := ⟨List.nodup_nil, List.not_mem_nil⟩
  exact heq.2 ▸ (isMapping_of_readAttributesFrom? hread hstart).toList

end Folio.Markdown
