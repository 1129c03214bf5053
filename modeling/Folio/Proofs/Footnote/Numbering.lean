import Folio.Proofs.Footnote.References
import Mathlib.Data.List.Nodup

/-!
# Numbers of footnotes

A footnote is shown with the number of its name among the names referred to, in the order of first
reference, and each of its superscripts also carries how many references to the name there have been
so far. Both are read off the list of names, so the state of the walk has a closed form. The id of a
superscript is what stands between the first quotes of its HTML; no two superscripts share one.
-/

namespace Folio.Footnote

open Folio.Text

section Distinct

variable (names : List String) (name : String)

/-- The number that a footnote is shown with: one more than the distinct names in front of the first
reference to it. -/
def displayNumber : Nat := (names.takeWhile (· ≠ name)).eraseDups.length + 1

/-- The first occurrence ends what stands in front of it. -/
theorem takeWhile_ne_append_cons (rest : List String) :
    (names ++ name :: rest).takeWhile (· ≠ name) = names.takeWhile (· ≠ name) := by
  induction names with
  | nil => simp
  | cons first names ih =>
    rw [List.cons_append, List.takeWhile_cons, List.takeWhile_cons, ih]

theorem takeWhile_ne_of_not_mem {names : List String} {name : String} (h : name ∉ names) :
    names.takeWhile (· ≠ name) = names := by
  rw [List.takeWhile_eq_self_iff]
  intro other hother
  exact decide_eq_true fun he => h (he ▸ hother)

/-- Later references leave the number of a footnote as it is. -/
theorem displayNumber_append {names : List String} {name : String} (h : name ∈ names)
    (others : List String) :
    displayNumber (names ++ others) name = displayNumber names name := by
  obtain ⟨before, after, rfl⟩ := List.append_of_mem h
  rw [displayNumber, displayNumber, List.append_assoc, List.cons_append, takeWhile_ne_append_cons,
    takeWhile_ne_append_cons]

/-- One more name is a new distinct name unless it has occurred before. -/
theorem eraseDups_concat :
    (names ++ [name]).eraseDups =
      if name ∈ names then names.eraseDups else names.eraseDups ++ [name] := by
  rw [List.eraseDups_append]
  by_cases h : name ∈ names
  · simp [List.cons_removeAll, h]
  · have hsingle : [name].eraseDups = [name] := rfl
    simp [List.cons_removeAll, h, hsingle]

theorem nodup_eraseDups : names.eraseDups.Nodup := by
  induction names using List.reverseRecOn with
  | nil => exact List.nodup_nil
  | append_singleton names name ih =>
    rw [eraseDups_concat]
    by_cases h : name ∈ names
    · rwa [if_pos h]
    · rw [if_neg h, ← List.concat_eq_append, List.nodup_concat, List.mem_eraseDups]
      exact ⟨h, ih⟩

/-- A name stands among the distinct names behind those that occur before it. -/
theorem idxOf_eraseDups :
    names.eraseDups.idxOf name = (names.takeWhile (· ≠ name)).eraseDups.length := by
  by_cases h : name ∈ names
  · obtain ⟨before, after, rfl, hbefore⟩ := List.eq_append_cons_of_mem h
    have hnew : name ∉ before.eraseDups := fun hmem => hbefore (List.mem_eraseDups.mp hmem)
    rw [takeWhile_ne_append_cons, takeWhile_ne_of_not_mem hbefore, List.eraseDups_append,
      List.idxOf_append_of_notMem hnew, List.cons_removeAll]
    simp [hbefore, List.eraseDups_cons]
  · rw [takeWhile_ne_of_not_mem h,
      List.idxOf_eq_length fun hmem => h (List.mem_eraseDups.mp hmem)]

/-- The next reference gets the number of its name, or the next number if the name is new. -/
theorem displayNumber_concat :
    displayNumber (names ++ [name]) name = names.eraseDups.idxOf name + 1 := by
  rw [displayNumber, takeWhile_ne_append_cons, idxOf_eraseDups]

end Distinct

section Tally

/-- Distinct names with their numbers from the given one on, and how often each has been referred
to. -/
def tally (number : Nat) (count : String → Nat) (distinct : List String) : List Usage :=
  (distinct.zipIdx number).map fun (name, number) => ⟨name, number, count name⟩

variable {name : String} {count : String → Nat} {distinct : List String}

theorem tally_cons (first : String) (number : Nat) :
    tally number count (first :: distinct) =
      ⟨first, number, count first⟩ :: tally (number + 1) count distinct := rfl

/-- Only the counts of the names in a tally matter. -/
theorem tally_congr {other : String → Nat} (h : ∀ name ∈ distinct, count name = other name)
    (number : Nat) : tally number count distinct = tally number other distinct := by
  induction distinct generalizing number with
  | nil => rfl
  | cons first distinct ih =>
    rw [tally_cons, tally_cons, h first List.mem_cons_self,
      ih (fun name hname => h name (List.mem_cons_of_mem _ hname))]

/-- Counting a reference raises the count of its name, which joins the tally if it is new. -/
theorem countReference_tally (count : String → Nat) (hdistinct : distinct.Nodup)
    (hnew : name ∉ distinct → count name = 0) (number : Nat) :
    countReference name number (tally number count distinct) =
      (⟨name, number + distinct.idxOf name, count name + 1⟩,
        tally number (fun key => count key + [name].count key)
          (if name ∈ distinct then distinct else distinct ++ [name])) := by
  induction distinct generalizing number with
  | nil =>
    rw [if_neg List.not_mem_nil]
    simp [tally, countReference, hnew]
  | cons first distinct ih =>
    obtain ⟨hfirst, hrest⟩ := List.nodup_cons.mp hdistinct
    rw [tally_cons, countReference]
    by_cases h : first = name
    · subst h
      have hothers : ∀ key ∈ distinct, count key = count key + [first].count key := by
        intro key hkey
        have hne : first ≠ key := fun he => hfirst (he ▸ hkey)
        simp [hne]
      rw [if_pos rfl, if_pos List.mem_cons_self, tally_cons, List.idxOf_cons_self,
        tally_congr hothers]
      simp
    · have hne : name ≠ first := Ne.symm h
      have hfound := ih hrest (fun hmem => hnew (by simp [hmem, hne])) (number + 1)
      have hplace : number + 1 + distinct.idxOf name = number + (distinct.idxOf name + 1) := by
        omega
      have hcount : count first + [name].count first = count first := by simp [hne]
      rw [if_neg h, hfound, List.idxOf_cons_ne _ h, hplace]
      by_cases hmem : name ∈ distinct
      · rw [if_pos hmem, if_pos (List.mem_cons_of_mem _ hmem), tally_cons, hcount]
      · have hmem' : name ∉ first :: distinct := by simp [hmem, hne]
        rw [if_neg hmem, if_neg hmem', List.cons_append, tally_cons, hcount]

end Tally

section References

/-- The references by names as their superscripts show them. -/
def shownUsages (names : List String) : List Usage :=
  (withEarlier names).map fun (earlier, name) =>
    ⟨name, displayNumber names name, earlier.count name + 1⟩

variable (names : List String)

theorem shownUsages_concat (name : String) :
    shownUsages (names ++ [name]) =
      shownUsages names ++
        [⟨name, displayNumber (names ++ [name]) name, names.count name + 1⟩] := by
  rw [shownUsages, withEarlier_concat, List.map_append, List.map_singleton, shownUsages]
  congr 1
  apply List.map_congr_left
  rintro ⟨earlier, other⟩ hother
  obtain ⟨later, rfl⟩ := mem_withEarlier_iff.mp hother
  simp only [displayNumber_append (List.mem_append_right earlier List.mem_cons_self)]

/-- Counting references one after the other has a closed form: each gets its number and its place
among the references to its name, and what is counted in the end are the distinct names with their
numbers and how often they occur. -/
theorem countAll_eq :
    countAll [] names = (shownUsages names, tally 1 names.count names.eraseDups) := by
  induction names using List.reverseRecOn with
  | nil => rfl
  | append_singleton names name ih =>
    have hcounted : countReference name 1 (tally 1 names.count names.eraseDups) =
        (⟨name, displayNumber (names ++ [name]) name, names.count name + 1⟩,
          tally 1 (names ++ [name]).count (names ++ [name]).eraseDups) := by
      have hnew : name ∉ names.eraseDups → names.count name = 0 := fun h =>
        List.count_eq_zero.mpr fun hmem => h (List.mem_eraseDups.mpr hmem)
      have hcount : (fun key => names.count key + [name].count key) =
          fun key => (names ++ [name]).count key := funext fun key => List.count_append.symm
      rw [countReference_tally names.count (nodup_eraseDups names) hnew, hcount,
        displayNumber_concat, eraseDups_concat, Nat.add_comm 1]
      simp only [List.mem_eraseDups]
    rw [countAll_append, ih, shownUsages_concat]
    simp only [countAll, hcounted]

end References

section Ids

variable {name : String} {n : Nat} (usages : List Usage) (names : List String)

/-- The id of the superscript that shows a reference. -/
def Usage.id (usage : Usage) : String := referenceId usage.name usage.count

/-- Among the references counted, a name occurs with the counts that go on from those before. -/
theorem exists_mem_countAll_iff :
    (∃ usage ∈ (countAll usages names).1, usage.name = name ∧ usage.count = n) ↔
      occurrences usages name < n ∧ n ≤ occurrences usages name + names.count name := by
  induction names generalizing usages with
  | nil =>
    rw [List.count_nil, Nat.add_zero]
    constructor
    · rintro ⟨usage, husage, -⟩
      exact absurd husage List.not_mem_nil
    · rintro ⟨hlt, hle⟩
      exact absurd hlt (Nat.not_lt.mpr hle)
  | cons first names ih =>
    have hname : (countReference first 1 usages).1.name = first := countReference_name ..
    have hcount := count_countReference first 1 usages
    have hlater := ih (countReference first 1 usages).2
    rw [occurrences_countReference] at hlater
    simp only [countAll, List.exists_mem_cons_iff, hlater, hname, hcount]
    by_cases h : first = name
    · subst h
      simp only [List.count_cons_self, List.count_nil, true_and]
      omega
    · simp only [List.count_cons_of_ne h, List.count_nil, h, false_and, false_or, Nat.add_zero]

/-- No two references get one id. -/
theorem nodup_map_id_countAll : ((countAll usages names).1.map Usage.id).Nodup := by
  induction names generalizing usages with
  | nil => exact List.nodup_nil
  | cons first names ih =>
    rw [countAll, List.map_cons, List.nodup_cons]
    refine ⟨fun hmem => ?_, ih _⟩
    obtain ⟨usage, husage, hid⟩ := List.mem_map.mp hmem
    obtain ⟨hname, hcount⟩ := referenceId_inj.mp hid
    rw [countReference_name] at hname
    have hlater := ((exists_mem_countAll_iff _ names).mp ⟨usage, husage, hname, hcount⟩).1
    rw [occurrences_countReference, count_countReference, List.count_singleton_self] at hlater
    exact absurd hlater (Nat.lt_irrefl _)

end Ids

section Html

/-- The id that a superscript carries: what stands between the first quotes behind it. -/
def superscriptId (token : Token) : String :=
  let start := "<sup class=\"footnote-reference\" id=\""
  .ofList ((token.content.toList.drop start.length).takeWhile (· ≠ '"'))

theorem quote_not_mem_escapeSpecial (cs : List Char) : '"' ∉ escapeSpecial cs := by
  rw [escapeSpecial, List.mem_flatMap]
  rintro ⟨c, -, hc⟩
  unfold specialEscape at hc
  split at hc <;> simp at hc
  rename_i hquote _ _
  exact hquote hc.symm

theorem quote_not_mem_escapedName (token : Token) : '"' ∉ (escapedName token).toList := by
  rw [escapedName, String.toList_ofList]
  exact quote_not_mem_escapeSpecial _

theorem quote_not_mem_of_mem_referenceNames {stream : List Token} {name : String}
    (h : name ∈ referenceNames stream) : '"' ∉ name.toList := by
  obtain ⟨token, -, hname⟩ := List.mem_flatMap.mp h
  rw [tokenNames] at hname
  split at hname
  · obtain ⟨child, -, rfl⟩ := List.mem_map.mp hname
    exact quote_not_mem_escapedName child
  · exact absurd hname List.not_mem_nil

/-- The id of a superscript is read back from its HTML if the name of the footnote is escaped. -/
theorem superscriptId_superscript {usage : Usage} (h : '"' ∉ usage.name.toList) :
    superscriptId (superscript usage) = usage.id := by
  have hid : ∀ c ∈ (referenceId usage.name usage.count).toList, decide (c ≠ '"') = true := by
    intro c hc
    rw [toList_referenceId] at hc
    refine decide_eq_true fun he => ?_
    subst he
    rcases List.mem_append.mp hc with hmem | hmem
    · exact absurd hmem (by decide)
    · rcases List.mem_append.mp hmem with hmem | hmem
      · exact h hmem
      · rcases List.mem_cons.mp hmem with hmem | hmem
        · exact absurd hmem (by decide)
        · exact not_mem_toDigits (by decide) _ hmem
  have hstart : "<sup class=\"footnote-reference\" id=\"".length =
      "<sup class=\"footnote-reference\" id=\"".toList.length := rfl
  have hclose : "\">".toList = ['"', '>'] := rfl
  simp only [superscriptId, superscript, Token.inlineHtml, String.toList_append, hstart,
    List.append_assoc, List.drop_left, hclose]
  rw [List.takeWhile_append_of_pos hid, List.cons_append, List.takeWhile_cons_of_neg (by decide),
    List.append_nil, String.ofList_toList, Usage.id]

/-- The ids of the superscripts in a stream are those of its references. -/
theorem map_superscriptId (usages : List Usage) (stream : List Token) :
    (superscripts stream (linkAll usages stream).1).map superscriptId =
      (countAll usages (referenceNames stream)).1.map Usage.id := by
  rw [(linkAll_eq_countAll usages stream).1, List.map_map]
  apply List.map_congr_left
  intro usage husage
  exact superscriptId_superscript
    (quote_not_mem_of_mem_referenceNames (name_mem_of_mem_countAll _ _ husage))

end Html

/-- A superscript in full: its id ends with the number of the reference among those to its name, its
link leads to the footnote, and what it shows is the number of the footnote. -/
theorem superscript_eq (usage : Usage) :
    superscript usage =
      { kind := .htmlInline
        content :=
          "<sup class=\"footnote-reference\" id=\"fr-" ++ usage.name ++ "-" ++
            toString usage.count ++ "\"><a href=\"#footnote-" ++ usage.name ++ "\">" ++
            toString usage.number ++ "</a></sup>" } := by
  rw [superscript, Token.inlineHtml, referenceId, itemId]
  simp only [String.append_assoc]
  rfl

/-- Footnotes are numbered in the order of first reference. Over any streams, taken in one after the
other, the references in inline tokens become superscripts, each with the place of the reference
among those to its name in its id, a link to the footnote of the name, and one more than the
distinct names in front of the first of these references as what it shows. In the end the names
referred to are kept in that order, numbered from one, with how often each has occurred. No two
superscripts share an id. -/
theorem collectAll_numbering (streams : List (List Token)) :
    let stream := streams.flatten
    let names := referenceNames stream
    let linked := linkAll [] stream
    let collected := Collector.collectAll {} streams
    collected = ((cut linked.1).collector linked.2, (cut linked.1).text) ∧
      List.Forall₂ IsLinked stream linked.1 ∧
      superscripts stream linked.1 =
        (withEarlier names).map (fun (earlier, name) =>
          { kind := .htmlInline
            content :=
              "<sup class=\"footnote-reference\" id=\"fr-" ++ name ++ "-" ++
                toString (earlier.count name + 1) ++ "\"><a href=\"#footnote-" ++ name ++ "\">" ++
                toString ((names.takeWhile (· ≠ name)).eraseDups.length + 1) ++ "</a></sup>" }) ∧
      collected.1.usages =
        (names.eraseDups.zipIdx 1).map (fun (name, number) => ⟨name, number, names.count name⟩) ∧
      (superscripts stream linked.1).map superscriptId =
        (withEarlier names).map (fun (earlier, name) =>
          "fr-" ++ name ++ "-" ++ toString (earlier.count name + 1)) ∧
      ((superscripts stream linked.1).map superscriptId).Nodup := by
  intro stream names linked collected
  have hcollected : collected = ((cut linked.1).collector linked.2, (cut linked.1).text) := by
    rw [← collect_linked, ← Collector.collectAll_eq]
  obtain ⟨hplaces, husages⟩ := linkAll_eq_countAll [] stream
  have hids := map_superscriptId [] stream
  rw [countAll_eq] at hplaces husages hids
  refine ⟨hcollected, linkAll_forall₂ [] stream, ?_, ?_, ?_, ?_⟩
  · rw [hplaces, shownUsages, List.map_map]
    exact List.map_congr_left fun pair _ => superscript_eq _
  · rw [hcollected]
    exact husages
  · rw [hids, shownUsages, List.map_map]
    rfl
  · rw [map_superscriptId]
    exact nodup_map_id_countAll [] names

end Folio.Footnote
