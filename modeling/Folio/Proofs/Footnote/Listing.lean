import Folio.Proofs.Footnote.Numbering

/-!
# The order of the footnote list

Footnotes are listed by their numbers. Each name is kept once and each number is given once, so the
list is the same whatever the order is in which definitions have been kept.
-/

namespace Folio.Footnote

/-- Each name is kept once. -/
theorem nodup_names_firsts (definitions : List Definition) :
    (names (firsts definitions)).Nodup := by
  induction definitions using List.reverseRecOn with
  | nil => exact List.nodup_nil
  | append_singleton definitions definition ih =>
    rw [firsts_concat]
    by_cases h : definition.name ∈ names definitions
    · rwa [if_pos h]
    · have hnames : names (firsts definitions ++ [definition]) =
          (names (firsts definitions)).concat definition.name := by
        rw [List.concat_eq_append]
        exact List.map_append
      rw [if_neg h, hnames, List.nodup_concat, mem_names_firsts]
      exact ⟨h, ih⟩

/-- The numbers of a tally follow each other. -/
theorem map_number_tally (number : Nat) (count : String → Nat) (distinct : List String) :
    (tally number count distinct).map Usage.number = List.range' number distinct.length := by
  rw [tally, List.map_map]
  exact List.zipIdx_map_snd ..

/-- The footnotes that a collector lists, each name kept once and each number given once. -/
structure Collector.IsRegular (collector : Collector) : Prop where
  names : (names collector.definitions).Nodup
  numbers : (collector.usages.map Usage.number).Nodup

theorem isRegular_collect (stream : List Token) :
    (Collector.collect {} stream).1.IsRegular := by
  rw [collect_linked]
  refine ⟨nodup_names_firsts _, ?_⟩
  simp only [Pieces.collector, (linkAll_eq_countAll [] stream).2, countAll_eq, map_number_tally]
  exact List.nodup_range'

/-- A listed footnote is a definition kept, with the usage of its name. -/
theorem mem_listed_iff {collector : Collector} {item : Usage × Definition} :
    item ∈ collector.listed ↔
      item.2 ∈ collector.definitions ∧ collector.usage? item.2 = some item.1 := by
  rw [Collector.listed, List.mem_mergeSort, List.mem_filterMap]
  constructor
  · rintro ⟨definition, hdefinition, hitem⟩
    obtain ⟨usage, husage, rfl⟩ := Option.map_eq_some_iff.mp hitem
    exact ⟨hdefinition, husage⟩
  · rintro ⟨hdefinition, husage⟩
    exact ⟨item.2, hdefinition, by rw [husage]; rfl⟩

/-- A footnote is listed once. -/
theorem Collector.IsRegular.eq_of_number_eq {collector : Collector} (h : collector.IsRegular)
    {item other : Usage × Definition} (hitem : item ∈ collector.listed)
    (hother : other ∈ collector.listed) (hnumber : item.1.number = other.1.number) :
    item = other := by
  obtain ⟨hdefinition, husage⟩ := mem_listed_iff.mp hitem
  obtain ⟨hdefinition', husage'⟩ := mem_listed_iff.mp hother
  have hsame : item.1 = other.1 := List.inj_on_of_nodup_map h.numbers
    (List.mem_of_find?_eq_some husage) (List.mem_of_find?_eq_some husage') hnumber
  have hname : item.1.name = item.2.name := by simpa using List.find?_some husage
  have hname' : other.1.name = other.2.name := by simpa using List.find?_some husage'
  have hbody : item.2 = other.2 := List.inj_on_of_nodup_map h.names hdefinition hdefinition'
    (by rw [← hname, ← hname', hsame])
  exact Prod.ext hsame hbody

theorem Collector.IsRegular.nodup_listed {collector : Collector} (h : collector.IsRegular) :
    collector.listed.Nodup := by
  rw [Collector.listed, (List.mergeSort_perm _ _).nodup_iff]
  refine h.names.of_map.filterMap ?_
  rintro first second item hfirst hsecond
  obtain ⟨_, -, rfl⟩ := Option.map_eq_some_iff.mp hfirst
  obtain ⟨_, -, hitem⟩ := Option.map_eq_some_iff.mp hsecond
  exact (congrArg Prod.snd hitem).symm

/-- The list of footnotes is in the order of their numbers. -/
theorem pairwise_listed (collector : Collector) :
    collector.listed.Pairwise fun a b => a.1.number ≤ b.1.number := by
  refine (List.pairwise_mergeSort ?_ ?_ _).imp fun hle => of_decide_eq_true hle
  · intro a b c hab hbc
    exact decide_eq_true (Nat.le_trans (of_decide_eq_true hab) (of_decide_eq_true hbc))
  · intro a b
    rw [Bool.or_eq_true, decide_eq_true_eq, decide_eq_true_eq]
    exact Nat.le_total _ _

/-- The list of footnotes does not depend on the order in which definitions are kept. -/
theorem listed_perm {collector other : Collector} (h : collector.IsRegular)
    (husages : other.usages = collector.usages)
    (hdefinitions : other.definitions.Perm collector.definitions) :
    other.listed = collector.listed := by
  have husage : other.usage? = collector.usage? := by
    funext definition
    rw [Collector.usage?, Collector.usage?, husages]
  have hperm : other.listed.Perm collector.listed := by
    rw [Collector.listed, Collector.listed, husage]
    exact ((List.mergeSort_perm _ _).trans (hdefinitions.filterMap _)).trans
      (List.mergeSort_perm _ _).symm
  refine hperm.eq_of_pairwise ?_ (pairwise_listed other) (pairwise_listed collector)
  intro item second hitem hsecond hle hge
  exact h.eq_of_number_eq (hperm.mem_iff.mp hitem) hsecond (Nat.le_antisymm hle hge)

end Folio.Footnote
