import Folio.Footnote.Appendix
import Folio.Proofs.Footnote.Collect
import Folio.Proofs.Text.Numbered

/-!
# References to footnotes

What the walk makes of the references of a stream depends on nothing but their names in order: each
reference becomes a superscript that is numbered by the references to the same name before it. The
ids of superscripts and of list items are made of the name and that number, which can be read back
from them.
-/

namespace Folio.Footnote

open Folio.Text

section Names

/-- The names that the references among the children of an inline token have: their escaped
labels. -/
def childNames (children : List Token) : List String :=
  (children.filter (·.kind = .footnoteReference)).map fun child =>
    .ofList (escapeSpecial (child.label.getD "").toList)

/-- A reference has the name that ids spell. -/
theorem childNames_cons {child : Token} (h : child.kind = .footnoteReference)
    (rest : List Token) : childNames (child :: rest) = escapedName child :: childNames rest := by
  rw [childNames, List.filter_cons_of_pos (by simpa using h)]
  rfl

/-- The names that the references in a token have. -/
def tokenNames (token : Token) : List String :=
  if token.kind = .inline then childNames token.childList else []

/-- The names that the references of a stream have, in order. -/
def referenceNames (stream : List Token) : List String := stream.flatMap tokenNames

/-- Count references to names, one after the other. -/
def countAll (usages : List Usage) : List String → List Usage × List Usage
  | [] => ([], usages)
  | name :: names =>
    let first := countReference name 1 usages
    let others := countAll first.2 names
    (first.1 :: others.1, others.2)

theorem countAll_append (usages : List Usage) (names others : List String) :
    countAll usages (names ++ others) =
      let first := countAll usages names
      let second := countAll first.2 others
      (first.1 ++ second.1, second.2) := by
  induction names generalizing usages with
  | nil => rfl
  | cons name names ih => simp only [List.cons_append, countAll, ih]

/-- The children that stand where references have been. -/
def childSuperscripts (children linked : List Token) : List Token :=
  ((children.zip linked).filter (·.1.kind = .footnoteReference)).map Prod.snd

/-- What stands in a token where references have been. -/
def tokenSuperscripts (token linked : Token) : List Token :=
  if token.kind = .inline then childSuperscripts token.childList linked.childList else []

/-- What stands in a stream where references have been. -/
def superscripts (stream linked : List Token) : List Token :=
  (stream.zip linked).flatMap fun pair => tokenSuperscripts pair.1 pair.2

/-- References are counted by their names, and superscripts with the counts take their places. -/
theorem linkChildren_eq_countAll (usages : List Usage) (children : List Token) :
    childSuperscripts children (linkChildren usages children).1 =
        (countAll usages (childNames children)).1.map superscript ∧
      (linkChildren usages children).2 = (countAll usages (childNames children)).2 := by
  induction children generalizing usages with
  | nil => exact ⟨rfl, rfl⟩
  | cons child rest ih =>
    by_cases h : child.kind = .footnoteReference
    · obtain ⟨hplaces, husages⟩ := ih (countReference (escapedName child) 1 usages).2
      rw [childSuperscripts] at hplaces
      simp [linkChildren, childSuperscripts, childNames_cons h, countAll, h, hplaces, husages]
    · obtain ⟨hplaces, husages⟩ := ih usages
      rw [childSuperscripts] at hplaces
      simp [linkChildren, childSuperscripts, childNames, h, hplaces, husages]

theorem linkReferences_eq_countAll (usages : List Usage) (token : Token) :
    tokenSuperscripts token (linkReferences usages token).1 =
        (countAll usages (tokenNames token)).1.map superscript ∧
      (linkReferences usages token).2 = (countAll usages (tokenNames token)).2 := by
  by_cases h : token.kind = .inline
  · rw [tokenSuperscripts, tokenNames, if_pos h, if_pos h, linkReferences, h, Token.childList,
      Token.childList]
    cases token.children with
    | none => exact ⟨rfl, rfl⟩
    | some children => exact linkChildren_eq_countAll usages children
  · rw [linkReferences_of_ne h, tokenSuperscripts, tokenNames, if_neg h, if_neg h]
    exact ⟨rfl, rfl⟩

/-- Over a stream, references are counted by their names, whatever stands between them. -/
theorem linkAll_eq_countAll (usages : List Usage) (stream : List Token) :
    superscripts stream (linkAll usages stream).1 =
        (countAll usages (referenceNames stream)).1.map superscript ∧
      (linkAll usages stream).2 = (countAll usages (referenceNames stream)).2 := by
  induction stream generalizing usages with
  | nil => exact ⟨rfl, rfl⟩
  | cons token rest ih =>
    obtain ⟨hplaces, husages⟩ := linkReferences_eq_countAll usages token
    obtain ⟨hrest, hlast⟩ := ih (linkReferences usages token).2
    have hnames : referenceNames (token :: rest) = tokenNames token ++ referenceNames rest :=
      List.flatMap_cons
    have hcons : superscripts (token :: rest) (linkAll usages (token :: rest)).1 =
        tokenSuperscripts token (linkReferences usages token).1 ++
          superscripts rest (linkAll (linkReferences usages token).2 rest).1 := List.flatMap_cons
    rw [husages] at hrest hlast
    rw [hcons, hnames, countAll_append, linkAll, hplaces, husages]
    exact ⟨by rw [hrest, List.map_append], hlast⟩

theorem linkChildren_of_no_names (usages : List Usage) {children : List Token}
    (h : childNames children = []) : linkChildren usages children = (children, usages) := by
  induction children with
  | nil => rfl
  | cons child rest ih =>
    by_cases hchild : child.kind = .footnoteReference
    · simp [childNames, hchild] at h
    · have hrest : childNames rest = [] := by
        rwa [childNames, List.filter_cons_of_neg (by simpa using hchild)] at h
      rw [linkChildren, if_neg hchild, ih hrest]

/-- A token without references stays as it is. -/
theorem linkReferences_of_no_names (usages : List Usage) {token : Token}
    (h : tokenNames token = []) : linkReferences usages token = (token, usages) := by
  obtain ⟨kind, tag, nesting, attrs, content, markup, info, block, hidden, label, children⟩ := token
  by_cases hinline : kind = .inline
  · subst hinline
    cases children with
    | none => rfl
    | some children =>
      have hchildren : childNames children = [] := h
      simp only [linkReferences, linkChildren_of_no_names usages hchildren]
  · exact linkReferences_of_ne hinline usages

theorem linkAll_of_no_names (usages : List Usage) {stream : List Token}
    (h : referenceNames stream = []) : linkAll usages stream = (stream, usages) := by
  induction stream with
  | nil => rfl
  | cons token rest ih =>
    rw [referenceNames, List.flatMap_cons, List.append_eq_nil_iff] at h
    rw [linkAll, linkReferences_of_no_names usages h.1]
    dsimp only
    rw [ih h.2]

end Names

section Counts

/-- How many references to a name have been counted. -/
def occurrences (usages : List Usage) (name : String) : Nat :=
  ((usages.find? (·.name = name)).map (·.count)).getD 0

theorem occurrences_cons (usage : Usage) (rest : List Usage) (name : String) :
    occurrences (usage :: rest) name =
      if usage.name = name then usage.count else occurrences rest name := by
  rw [occurrences, List.find?_cons]
  by_cases h : usage.name = name
  · simp [h]
  · simp [h, occurrences]

/-- A reference is counted as one more than those before it. -/
theorem count_countReference (name : String) (number : Nat) (usages : List Usage) :
    (countReference name number usages).1.count = occurrences usages name + 1 := by
  induction usages generalizing number with
  | nil => rfl
  | cons usage rest ih =>
    rw [countReference, occurrences_cons]
    by_cases h : usage.name = name
    · rw [if_pos h, if_pos h]
    · rw [if_neg h, if_neg h]
      exact ih (number + 1)

/-- Counting a reference raises the count of its name by one. -/
theorem occurrences_countReference (name key : String) (number : Nat) (usages : List Usage) :
    occurrences (countReference name number usages).2 key =
      occurrences usages key + [name].count key := by
  induction usages generalizing number with
  | nil =>
    rw [countReference, occurrences_cons, List.count_singleton]
    simp [occurrences]
  | cons usage rest ih =>
    rw [countReference]
    by_cases h : usage.name = name
    · rw [if_pos h, occurrences_cons, occurrences_cons, List.count_singleton, h]
      by_cases hkey : name = key <;> simp [hkey]
    · rw [if_neg h, occurrences_cons, occurrences_cons, ih]
      by_cases hkey : usage.name = key
      · have hne : name ≠ key := fun he => h (hkey.trans he.symm)
        simp [hkey, hne]
      · simp [hkey]

/-- The names counted are those counted before and the new one. -/
theorem mem_names_countReference {name key : String} {number : Nat} {usages : List Usage} :
    key ∈ (countReference name number usages).2.map Usage.name ↔
      key ∈ usages.map Usage.name ∨ key = name := by
  induction usages generalizing number with
  | nil => simp [countReference]
  | cons usage rest ih =>
    rw [countReference]
    by_cases h : usage.name = name
    · rw [if_pos h]
      simp only [List.map_cons, List.mem_cons, h]
      rw [or_right_comm, or_self]
    · rw [if_neg h]
      simp only [List.map_cons, List.mem_cons, ih, or_assoc]

variable (usages : List Usage) (names : List String)

/-- The names counted in the end are those counted before and those referred to. -/
theorem mem_names_countAll {key : String} :
    key ∈ (countAll usages names).2.map Usage.name ↔ key ∈ usages.map Usage.name ∨ key ∈ names := by
  induction names generalizing usages with
  | nil => simp [countAll]
  | cons name names ih => rw [countAll, ih, mem_names_countReference, List.mem_cons, or_assoc]

/-- Every reference has its own name, and its count goes on from the references before it. -/
theorem getElem?_countAll {i : Nat} {name : String} (h : names[i]? = some name) :
    ∃ usage, (countAll usages names).1[i]? = some usage ∧ usage.name = name ∧
      usage.count = occurrences usages name + (names.take i).count name + 1 := by
  induction names generalizing usages i with
  | nil => exact absurd h (by simp)
  | cons first names ih =>
    cases i with
    | zero =>
      rw [List.getElem?_cons_zero] at h
      obtain rfl := Option.some.inj h
      exact ⟨_, rfl, countReference_name .., count_countReference ..⟩
    | succ i =>
      rw [List.getElem?_cons_succ] at h
      obtain ⟨usage, hget, hname, hcount⟩ := ih (countReference first 1 usages).2 h
      refine ⟨usage, hget, hname, ?_⟩
      have hcons : (first :: names.take i).count name =
          [first].count name + (names.take i).count name := by
        rw [← List.count_append, List.singleton_append]
      rw [hcount, occurrences_countReference, List.take_succ_cons, hcons]
      omega

theorem length_countAll : (countAll usages names).1.length = names.length := by
  induction names generalizing usages with
  | nil => rfl
  | cons name names ih => rw [countAll, List.length_cons, List.length_cons, ih]

/-- A superscript stands for a reference to its name. -/
theorem name_mem_of_mem_countAll {usage : Usage} (h : usage ∈ (countAll usages names).1) :
    usage.name ∈ names := by
  obtain ⟨i, hi⟩ := List.getElem?_of_mem h
  have hlt : i < names.length := by
    rw [← length_countAll usages names]
    exact (List.getElem?_eq_some_iff.mp hi).1
  obtain ⟨other, hother, hname, -⟩ := getElem?_countAll usages names
    (List.getElem?_eq_getElem hlt)
  obtain rfl := Option.some.inj (hi.symm.trans hother)
  rw [hname]
  exact List.getElem_mem hlt

/-- The first reference to a name is counted as one. -/
theorem exists_first_of_mem {name : String} (h : name ∈ names) :
    ∃ usage ∈ (countAll [] names).1, usage.name = name ∧ usage.count = 1 := by
  obtain ⟨before, after, rfl, hbefore⟩ := List.eq_append_cons_of_mem h
  have hget : (before ++ name :: after)[before.length]? = some name := by simp
  obtain ⟨usage, hmem, hname, hcount⟩ := getElem?_countAll [] _ hget
  refine ⟨usage, List.mem_of_getElem? hmem, hname, ?_⟩
  rw [hcount, List.take_left, List.count_eq_zero.mpr hbefore]
  rfl

end Counts

section Ids

variable {name other : String} {m n : Nat}

theorem toList_referenceId (name : String) (n : Nat) :
    (referenceId name n).toList = "fr-".toList ++ (name.toList ++ '-' :: Nat.toDigits 10 n) := by
  have hdigits : (toString n).toList = Nat.toDigits 10 n := Nat.toList_repr
  rw [referenceId, String.toList_append, String.toList_append, String.toList_append, hdigits,
    List.append_assoc, List.append_assoc]
  rfl

/-- Name and number are read back from the id of a superscript. -/
theorem referenceId_inj : referenceId name m = referenceId other n ↔ name = other ∧ m = n := by
  rw [← String.toList_inj, toList_referenceId, toList_referenceId, List.append_cancel_left_eq,
    append_hyphen_toDigits_inj, String.toList_inj]

/-- The name is read back from the id of a list item. -/
theorem itemId_inj : itemId name = itemId other ↔ name = other := by
  rw [itemId, itemId, String.append_right_inj]

/-- No superscript has the id of a list item. -/
theorem referenceId_ne_itemId : referenceId name m ≠ itemId other := by
  intro h
  have hsecond : (referenceId name m).toList[1]? = (itemId other).toList[1]? := by rw [h]
  rw [toList_referenceId, itemId, String.toList_append] at hsecond
  simp at hsecond

end Ids

/-- The names that have been counted behind a stream are those that it refers to. -/
theorem mem_names_usages {stream : List Token} {name : String} :
    name ∈ (Collector.collect {} stream).1.usages.map Usage.name ↔
      name ∈ referenceNames stream := by
  have husages : (Collector.collect {} stream).1.usages =
      (countAll [] (referenceNames stream)).2 := by
    rw [collect_linked]
    exact (linkAll_eq_countAll [] stream).2
  rw [husages, mem_names_countAll]
  simp

namespace Collector

/-- A listed footnote has a definition and has been referred to. -/
theorem name_mem_of_mem_listed {collector : Collector} {item : Usage × Definition}
    (h : item ∈ collector.listed) :
    item.2 ∈ collector.definitions ∧ item.2.name ∈ collector.usages.map Usage.name := by
  rw [listed, List.mem_mergeSort, List.mem_filterMap] at h
  obtain ⟨definition, hdefinition, hitem⟩ := h
  obtain ⟨usage, husage, rfl⟩ := Option.map_eq_some_iff.mp hitem
  have hname : usage.name = definition.name := by simpa using List.find?_some husage
  refine ⟨hdefinition, ?_⟩
  rw [← hname]
  exact List.mem_map_of_mem (List.mem_of_find?_eq_some husage)

end Collector

end Folio.Footnote
