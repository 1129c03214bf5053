import Folio.Proofs.Footnote.Item
import Folio.Proofs.Footnote.Listing

/-!
# The footnote list of a page

Behind the text stands each footnote that has been kept and is referred to, once and in the order of
the numbers that the superscripts show. Footnotes that nothing refers to give a warning instead. If
nothing is referred to without being defined, the numbers have no gaps, and the places in the list
are the numbers.
-/

namespace Folio.Footnote

section Usages

variable {stream : List Token} {usage : Usage}

theorem map_name_tally (number : Nat) (count : String → Nat) (distinct : List String) :
    (tally number count distinct).map Usage.name = distinct := by
  rw [tally, List.map_map]
  exact List.zipIdx_map_fst ..

/-- A name stands in a tally with its place and its count. -/
theorem eq_of_mem_tally {number : Nat} {count : String → Nat} {distinct : List String}
    (hdistinct : distinct.Nodup) (h : usage ∈ tally number count distinct) :
    usage = ⟨usage.name, number + distinct.idxOf usage.name, count usage.name⟩ := by
  induction distinct generalizing number with
  | nil => exact absurd h List.not_mem_nil
  | cons first distinct ih =>
    obtain ⟨hfirst, hrest⟩ := List.nodup_cons.mp hdistinct
    rw [tally_cons] at h
    rcases List.mem_cons.mp h with rfl | h
    · rw [List.idxOf_cons_self, Nat.add_zero]
    · have hname : usage.name ∈ distinct := by
        rw [← map_name_tally (number + 1) count distinct]
        exact List.mem_map_of_mem h
      have hne : first ≠ usage.name := fun he => hfirst (he ▸ hname)
      rw [List.idxOf_cons_ne _ hne, Nat.add_succ, ← Nat.succ_add]
      exact ih hrest h

/-- The usages behind a stream are the distinct names that it refers to, numbered from one. -/
theorem usages_collect (stream : List Token) :
    (Collector.collect {} stream).1.usages =
      tally 1 (referenceNames stream).count (referenceNames stream).eraseDups := by
  rw [collect_linked]
  simp only [Pieces.collector, (linkAll_eq_countAll [] stream).2, countAll_eq]

/-- A name is kept with the number that its superscripts show and with how often it occurs. -/
theorem eq_of_mem_usages (h : usage ∈ (Collector.collect {} stream).1.usages) :
    usage = ⟨usage.name, displayNumber (referenceNames stream) usage.name,
      (referenceNames stream).count usage.name⟩ := by
  rw [usages_collect] at h
  have hplace := eq_of_mem_tally (nodup_eraseDups _) h
  rwa [idxOf_eraseDups, Nat.add_comm 1] at hplace

end Usages

section Listing

/-- Whether anything refers to a definition. -/
def Collector.refersTo (collector : Collector) (definition : Definition) : Bool :=
  decide (definition.name ∈ collector.usages.map Usage.name)

/-- The footnotes of a list: each definition that is kept and referred to, once and with the usage
of its name, numbers increasing. -/
structure IsListing (collector : Collector) (items : List (Usage × Definition)) : Prop where
  definitions : (items.map Prod.snd).Perm (collector.definitions.filter collector.refersTo)
  usage : ∀ item ∈ items, item.1 ∈ collector.usages ∧ item.1.name = item.2.name
  increasing : (items.map fun item => item.1.number).Pairwise (· < ·)

namespace Collector

variable (collector : Collector)

/-- A definition has a usage exactly if something refers to it. -/
theorem isSome_usage? (definition : Definition) :
    (collector.usage? definition).isSome = collector.refersTo definition := by
  rw [Bool.eq_iff_iff, usage?, List.find?_isSome, refersTo, decide_eq_true_iff, List.mem_map]
  simp only [decide_eq_true_eq]

/-- The warnings are about the definitions that nothing refers to, in the order they are kept. -/
theorem unreferencedWarnings_eq :
    collector.unreferencedWarnings =
      (collector.definitions.filter fun definition => !collector.refersTo definition).map
        fun definition => .unreferenced definition.name := by
  rw [unreferencedWarnings, ← List.filterMap_eq_map, List.filterMap_filter]
  apply List.filterMap_congr
  intro definition _
  rw [← collector.isSome_usage? definition]
  cases collector.usage? definition <;> rfl

/-- The definitions listed are those referred to. -/
theorem map_snd_listed_perm :
    (collector.listed.map Prod.snd).Perm (collector.definitions.filter collector.refersTo) := by
  rw [listed]
  refine ((List.mergeSort_perm _ _).map _).trans (.of_eq ?_)
  rw [List.map_filterMap, ← List.filterMap_eq_filter]
  apply List.filterMap_congr
  intro definition _
  rw [Option.guard, ← collector.isSome_usage? definition]
  cases collector.usage? definition <;> rfl

variable {collector}

/-- Each footnote is listed once, so the numbers increase. -/
theorem IsRegular.isListing (h : collector.IsRegular) : IsListing collector collector.listed where
  definitions := collector.map_snd_listed_perm
  usage item hitem := by
    have husage := (mem_listed_iff.mp hitem).2
    exact ⟨List.mem_of_find?_eq_some husage, by simpa using List.find?_some husage⟩
  increasing := by
    rw [List.pairwise_map]
    refine ((pairwise_listed collector).and h.nodup_listed).imp_of_mem ?_
    rintro item other hitem hother ⟨hle, hne⟩
    exact Nat.lt_of_le_of_ne hle fun he => hne (h.eq_of_number_eq hitem hother he)

end Collector

/-- A list without gaps: if whatever is referred to is defined, each number is that of the place. -/
theorem IsListing.numbers_eq {stream : List Token} {items : List (Usage × Definition)}
    (h : IsListing (Collector.collect {} stream).1 items)
    (hdefined : ∀ usage ∈ (Collector.collect {} stream).1.usages,
      ∃ definition ∈ (Collector.collect {} stream).1.definitions, definition.name = usage.name) :
    (items.map fun item => item.1.number) = List.range' 1 items.length := by
  have hnames : ((Collector.collect {} stream).1.usages.map Usage.name).Nodup := by
    rw [usages_collect, map_name_tally]
    exact nodup_eraseDups _
  have hnumbers : (Collector.collect {} stream).1.usages.map Usage.number =
      List.range' 1 (referenceNames stream).eraseDups.length := by
    rw [usages_collect, map_number_tally]
  have hmem : ∀ number, number ∈ (items.map fun item => item.1.number) ↔
      number ∈ List.range' 1 (referenceNames stream).eraseDups.length := by
    intro number
    rw [← hnumbers, List.mem_map, List.mem_map]
    constructor
    · rintro ⟨item, hitem, rfl⟩
      exact ⟨item.1, (h.usage item hitem).1, rfl⟩
    · rintro ⟨usage, husage, rfl⟩
      obtain ⟨definition, hdefinition, hname⟩ := hdefined usage husage
      have hreferred : definition ∈ (Collector.collect {} stream).1.definitions.filter
          (Collector.collect {} stream).1.refersTo := by
        refine List.mem_filter.mpr ⟨hdefinition, decide_eq_true ?_⟩
        rw [hname]
        exact List.mem_map_of_mem husage
      obtain ⟨item, hitem, rfl⟩ := List.mem_map.mp (h.definitions.mem_iff.mpr hreferred)
      have hsame := h.usage item hitem
      exact ⟨item, hitem, congrArg Usage.number
        (List.inj_on_of_nodup_map hnames hsame.1 husage (hsame.2.trans hname))⟩
  have hdistinct : (items.map fun item => item.1.number).Nodup := h.increasing.imp Nat.ne_of_lt
  have hperm := (List.perm_ext_iff_of_nodup hdistinct List.nodup_range').mpr hmem
  have hlength : items.length = (referenceNames stream).eraseDups.length := by
    have hlength := hperm.length_eq
    rwa [List.length_map, List.length_range'] at hlength
  rw [hlength]
  refine hperm.eq_of_pairwise ?_ h.increasing List.pairwise_lt_range'
  intro m n _ _ hlt hgt
  exact absurd hlt (Nat.lt_asymm hgt)

end Listing

section Html

variable (collector : Collector) (pageId : String) (serialize : List Token → String)

/-- The list is written if there is anything to list. -/
theorem Collector.appendix_eq :
    collector.appendix pageId serialize =
      if collector.listed = [] then ""
      else "<hr>\n<ol class=\"footnote-definition\">" ++
        String.join
            (collector.listed.map fun item => serialize (itemTokens pageId item.1 item.2)) ++
          "</ol>" := by
  rw [appendix]
  split
  · rename_i hnone
    rw [if_pos hnone]
  · rename_i items hsome
    rw [if_neg hsome]

/-- Whatever the serializer writes, only an empty list is written as nothing. -/
theorem Collector.appendix_eq_empty_iff :
    collector.appendix pageId serialize = "" ↔ collector.listed = [] := by
  rw [appendix_eq]
  constructor
  · intro h
    by_contra hne
    rw [if_neg hne] at h
    have hlength := congrArg String.length h
    have hclosing : "</ol>".length = 5 := rfl
    rw [String.length_append, hclosing, String.length_empty] at hlength
    exact absurd hlength (Nat.succ_ne_zero _)
  · exact fun hnone => if_pos hnone

end Html

/-- Behind any streams, taken in one after the other, the footnote list is what the definitions kept
and the references say. There is a warning for each definition that nothing refers to, in the order
in which they are kept, and the list is written exactly if something refers to one of the others.
It then holds an item for each of these, numbers increasing: behind the opening tag the body of the
definition, with a link back for each reference to it in their order, in front of the last token of
the body if that closes a paragraph and else behind the body. The numbers are those that the
superscripts show, and if whatever is referred to is defined, they are the places in the list. -/
theorem collectAll_appendix (streams : List (List Token)) (pageId : String)
    (serialize : List Token → String) :
    let collector := (Collector.collectAll {} streams).1
    let names := referenceNames streams.flatten
    collector.unreferencedWarnings =
        (collector.definitions.filter fun definition => !collector.refersTo definition).map
          (fun definition => .unreferenced definition.name) ∧
      (collector.appendix pageId serialize = "" ↔
        collector.definitions.filter collector.refersTo = []) ∧
      ∃ items, IsListing collector items ∧
        collector.appendix pageId serialize =
          (if items = [] then ""
          else "<hr>\n<ol class=\"footnote-definition\">" ++
            String.join (items.map fun item => serialize (itemTokens pageId item.1 item.2)) ++
              "</ol>") ∧
        (∀ item ∈ items,
          item.1 = ⟨item.2.name, displayNumber names item.2.name, names.count item.2.name⟩ ∧
          itemTokens pageId item.1 item.2 =
            { kind := .htmlBlock, content := "<li id=\"footnote-" ++ item.2.name ++ "\">" } ::
              (appendInside item.2.body
                ((List.range' 1 item.1.count).map fun occurrence =>
                  { kind := .htmlBlock
                    content :=
                      " <a href=\"#" ++ (if pageId = "" then "" else pageId ++ "-") ++ "fr-" ++
                        item.2.name ++ "-" ++ toString occurrence ++ "\">↩" ++
                        (if occurrence = 1 then "" else toString occurrence) ++ "</a>" }) ++
                [{ kind := .htmlBlock, content := "</li>\n" }])) ∧
        ((∀ usage ∈ collector.usages, ∃ definition ∈ collector.definitions,
            definition.name = usage.name) →
          (items.map fun item => item.1.number) = List.range' 1 items.length) := by
  intro collector names
  have hcollector : collector = (Collector.collect {} streams.flatten).1 :=
    congrArg Prod.fst (Collector.collectAll_eq {} streams)
  have hlisting : IsListing collector collector.listed := by
    rw [hcollector]
    exact (isRegular_collect streams.flatten).isListing
  refine ⟨collector.unreferencedWarnings_eq, ?_, collector.listed, hlisting,
    collector.appendix_eq pageId serialize, fun item hitem => ⟨?_, ?_⟩, fun hdefined => ?_⟩
  · rw [collector.appendix_eq_empty_iff, ← List.map_eq_nil_iff,
      ← List.length_eq_zero_iff, hlisting.definitions.length_eq, List.length_eq_zero_iff]
  · obtain ⟨husage, hname⟩ := hlisting.usage item hitem
    rw [hcollector] at husage
    rw [← hname]
    exact eq_of_mem_usages husage
  · have hid : "<li id=\"" ++ itemId item.2.name = "<li id=\"footnote-" ++ item.2.name := by
      rw [itemId, ← String.append_assoc]
      rfl
    rw [itemTokens_eq, backlinks, hid, List.map_congr_left fun occurrence _ => backlink_eq ..]
    rfl
  · rw [hcollector] at hlisting hdefined
    rw [hcollector]
    exact hlisting.numbers_eq hdefined

/-- Footnotes that are defined in another order than they are referred to in, by two streams. The
links back of the one stand inside its paragraph, that of the other behind its code. -/
theorem collectAll_appendix_swapped :
    let refer (labels : List String) : Token :=
      { kind := .inline, children := some (labels.map fun label =>
          { kind := .footnoteReference, label := some label }) }
    let define (label : String) (body : List Token) : List Token :=
      { kind := .footnoteOpen, label := some label } :: body ++ [{ kind := .footnoteClose }]
    let code : List Token := [{ kind := .fence, content := "code" }]
    let paragraph : List Token := [{ kind := .paragraphOpen, content := "<p>" },
      { kind := .paragraphClose, content := "</p>" }]
    let streams := [refer ["y", "x", "y"] :: define "x" code, define "y" paragraph]
    let serialize (tokens : List Token) : String := String.join (tokens.map (·.content))
    let collector := (Collector.collectAll {} streams).1
    (∀ usage ∈ collector.usages, ∃ definition ∈ collector.definitions,
        definition.name = usage.name) ∧
      (∃ items, IsListing collector items ∧ (items.map fun item => item.1.number) = [1, 2]) ∧
      collector.appendix "ch" serialize =
        "<hr>\n<ol class=\"footnote-definition\">" ++
          "<li id=\"footnote-y\"><p> <a href=\"#ch-fr-y-1\">↩</a> <a href=\"#ch-fr-y-2\">↩2</a>" ++
          "</p></li>\n" ++
          "<li id=\"footnote-x\">code <a href=\"#ch-fr-x-1\">↩</a></li>\n</ol>" := by
  intro refer define code paragraph streams serialize collector
  have hdefined : ∀ usage ∈ collector.usages, ∃ definition ∈ collector.definitions,
      definition.name = usage.name := by decide +kernel
  obtain ⟨-, -, items, hlisting, -, -, hnumbers⟩ := collectAll_appendix streams "ch" serialize
  have hlength : items.length = 2 := by
    rw [← List.length_map Prod.snd, hlisting.definitions.length_eq]
    decide +kernel
  have hnumbered : (items.map fun item => item.1.number) = [1, 2] := by
    rw [hnumbers hdefined, hlength]
    rfl
  have hpairs : (collector.definitions.filterMap fun definition =>
      (collector.usage? definition).map (·, definition)) =
        [(⟨"x", 2, 1⟩, ⟨"x", code⟩), (⟨"y", 1, 2⟩, ⟨"y", paragraph⟩)] := rfl
  have hlisted : collector.listed =
      [(⟨"y", 1, 2⟩, ⟨"y", paragraph⟩), (⟨"x", 2, 1⟩, ⟨"x", code⟩)] := by
    rw [Collector.listed]
    simp [hpairs, List.mergeSort, List.MergeSort.Internal.splitInTwo]
  refine ⟨hdefined, ⟨items, hlisting, hnumbered⟩, ?_⟩
  rw [Collector.appendix, hlisted]
  decide +kernel

end Folio.Footnote
