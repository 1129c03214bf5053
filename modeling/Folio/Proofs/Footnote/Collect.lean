import Folio.Proofs.Footnote.Segments

/-!
# The walk that collects footnotes

Walking a stream token by token gives what is read off the stream when it is cut at its markers. The
collector is the summary of the segments so far, and each step keeps it so, whatever the order of
the markers is. References are numbered independently of the markers.
-/

namespace Folio.Footnote

open Folio.Text

section Links

/-- Replace the footnote references in the tokens of a stream, one after the other. -/
def linkAll (usages : List Usage) : List Token → List Token × List Usage
  | [] => ([], usages)
  | token :: rest =>
    let first := linkReferences usages token
    let others := linkAll first.2 rest
    (first.1 :: others.1, others.2)

theorem linkAll_concat (usages : List Usage) (stream : List Token) (token : Token) :
    linkAll usages (stream ++ [token]) =
      let last := linkReferences (linkAll usages stream).2 token
      ((linkAll usages stream).1 ++ [last.1], last.2) := by
  induction stream generalizing usages with
  | nil => rfl
  | cons first rest ih =>
    simp only [List.cons_append, linkAll, ih]

/-- Only inline tokens hold references. -/
theorem linkReferences_of_ne {token : Token} (h : token.kind ≠ .inline) (usages : List Usage) :
    linkReferences usages token = (token, usages) := by
  unfold linkReferences
  split
  · rename_i hinline _
    exact absurd hinline h
  · rfl

/-- Replacing references leaves the kind of a token as it is. -/
theorem linkReferences_kind (usages : List Usage) (token : Token) :
    (linkReferences usages token).1.kind = token.kind := by
  unfold linkReferences
  split <;> rfl

/-- A child of an inline token with its reference replaced, if it is one. -/
def IsLinkedChild (child linked : Token) : Prop :=
  if child.kind = .footnoteReference then
    ∃ usage : Usage, usage.name = .ofList (escapeSpecial (child.label.getD "").toList) ∧
      linked = superscript usage
  else linked = child

/-- A token with the references directly below it replaced, if it is an inline token. -/
def IsLinked (token linked : Token) : Prop :=
  if token.kind = .inline then
    ∃ children, linked = { token with children } ∧
      Option.Rel (List.Forall₂ IsLinkedChild) token.children children
  else linked = token

theorem countReference_name (name : String) (number : Nat) (usages : List Usage) :
    (countReference name number usages).1.name = name := by
  induction usages generalizing number with
  | nil => rfl
  | cons usage rest ih =>
    rw [countReference]
    split
    · rename_i h
      exact h
    · exact ih (number + 1)

theorem linkChildren_forall₂ (usages : List Usage) (children : List Token) :
    List.Forall₂ IsLinkedChild children (linkChildren usages children).1 := by
  induction children generalizing usages with
  | nil => exact List.Forall₂.nil
  | cons child rest ih =>
    rw [linkChildren]
    by_cases h : child.kind = .footnoteReference
    · rw [if_pos h]
      refine List.Forall₂.cons ?_ (ih _)
      rw [IsLinkedChild, if_pos h]
      exact ⟨_, countReference_name .., rfl⟩
    · rw [if_neg h]
      refine List.Forall₂.cons ?_ (ih _)
      rw [IsLinkedChild, if_neg h]

theorem isLinked_linkReferences (usages : List Usage) (token : Token) :
    IsLinked token (linkReferences usages token).1 := by
  obtain ⟨kind, tag, nesting, attrs, content, markup, info, block, hidden, label, children⟩ := token
  by_cases h : kind = .inline
  · subst h
    rw [IsLinked, if_pos rfl]
    cases children with
    | none => exact ⟨none, rfl, Option.Rel.none⟩
    | some children => exact ⟨_, rfl, Option.Rel.some (linkChildren_forall₂ usages children)⟩
  · rw [IsLinked, if_neg h, linkReferences_of_ne h]

/-- Token by token the stream only has its references replaced. -/
theorem linkAll_forall₂ (usages : List Usage) (stream : List Token) :
    List.Forall₂ IsLinked stream (linkAll usages stream).1 := by
  induction stream generalizing usages with
  | nil => exact List.Forall₂.nil
  | cons token rest ih => exact List.Forall₂.cons (isLinked_linkReferences usages token) (ih _)

end Links

section Walk

/-- The collector that the pieces of a stream stand for. -/
def Pieces.collector (pieces : Pieces) (usages : List Usage) : Collector where
  definitions := firsts (ended pieces.segments)
  usages
  current := current? pieces.segments
  warnings := warnings pieces.segments

private theorem any_firsts (name : String) (definitions : List Definition) :
    ((firsts definitions).any fun definition => definition.name = name) = true ↔
      name ∈ names definitions := by
  rw [← mem_names_firsts, names, List.mem_map, List.any_eq_true]
  simp only [decide_eq_true_eq]

/-- Ending a definition keeps it if it is the first of its name, and warns otherwise. -/
theorem closeDefinition_segments (segments : List Segment) (usages : List Usage)
    (given : List Warning) :
    Collector.closeDefinition ⟨firsts (ended segments), usages, current? segments, given⟩ =
      ⟨firsts (ended segments ++ (current? segments).toList), usages, none,
        given ++ repeatedWarning segments⟩ := by
  rw [Collector.closeDefinition, repeatedWarning]
  cases current? segments with
  | none => simp only [Option.toList_none, List.append_nil]
  | some definition =>
    simp only [Option.toList_some, firsts_concat]
    by_cases h : definition.name ∈ names (ended segments)
    · rw [if_pos ((any_firsts _ _).mpr h), if_pos h, if_pos h]
    · rw [if_neg fun hany => h ((any_firsts _ _).mp hany), if_neg h, if_neg h, List.append_nil]

/-- Beginning a definition ends the one before it with a warning, if it is still open. -/
theorem openDefinition_segments (segments : List Segment) (usages : List Usage)
    (given : List Warning) (name : String) :
    Collector.openDefinition ⟨firsts (ended segments), usages, current? segments, given⟩ name =
      ⟨firsts (ended segments ++ (current? segments).toList), usages, some ⟨name, []⟩,
        given ++ ((if (current? segments).isSome then [.nested] else []) ++
          repeatedWarning segments)⟩ := by
  rw [Collector.openDefinition]
  by_cases h : (current? segments).isSome = true
  · rw [if_pos h, if_pos h, closeDefinition_segments, List.append_assoc]
  · have hnone : current? segments = none := Option.not_isSome_iff_eq_none.mp h
    rw [if_neg h, if_neg h, repeatedWarning, hnone]
    simp only [Option.toList_none, List.append_nil]

variable (stream : List Token) (usages : List Usage) {token : Token}

/-- A marker that begins a definition begins a segment. -/
theorem step_footnoteOpen (h : token.kind = .footnoteOpen) :
    ((cut stream).collector usages).step token =
      ((cut (stream ++ [token])).collector usages, []) := by
  have hmarker : isMarker token = true := by rw [isMarker, h]; rfl
  have hdefinition : Segment.definition? ⟨token, []⟩ = some ⟨escapedName token, []⟩ := if_pos h
  have hnested : nestedWarning (cut stream).segments ⟨token, []⟩ =
      if (current? (cut stream).segments).isSome then [.nested] else [] := by
    rw [nestedWarning, hdefinition]
    simp only [Option.isSome_some, true_and]
  rw [cut_concat_marker hmarker]
  simp only [Collector.step, h, Pieces.collector, openDefinition_segments, ended_concat,
    current?_concat, warnings_concat, hdefinition, hnested]

/-- A marker that ends a definition begins a segment of text. -/
theorem step_footnoteClose (h : token.kind = .footnoteClose) :
    ((cut stream).collector usages).step token =
      ((cut (stream ++ [token])).collector usages, []) := by
  have hmarker : isMarker token = true := by rw [isMarker, h]; rfl
  have hdefinition : Segment.definition? ⟨token, []⟩ = none :=
    if_neg fun he => Token.Kind.noConfusion (h.symm.trans he)
  have hnested : nestedWarning (cut stream).segments ⟨token, []⟩ = [] := by
    rw [nestedWarning, hdefinition]
    simp only [Option.isSome_none, Bool.false_eq_true, false_and, ite_false]
  rw [cut_concat_marker hmarker]
  simp only [Collector.step, h, Pieces.collector, closeDefinition_segments, ended_concat,
    current?_concat, warnings_concat, hdefinition, hnested, List.nil_append]

/-- Any other token has its references replaced and joins the text or the open definition. -/
theorem step_token (h : isMarker token = false) :
    ((cut stream).collector usages).step token =
      ((cut (stream ++ [(linkReferences usages token).1])).collector
        (linkReferences usages token).2,
        if (current? (cut stream).segments).isSome then []
        else [(linkReferences usages token).1]) := by
  have hlinked : isMarker (linkReferences usages token).1 = false := by
    rw [isMarker, linkReferences_kind]
    exact h
  obtain ⟨-, hcurrent, hended, hwarnings⟩ := cut_concat_spec hlinked stream
  rw [isMarker, Bool.or_eq_false_iff, beq_eq_false_iff_ne, beq_eq_false_iff_ne] at h
  simp only [Pieces.collector, hcurrent, hended, hwarnings]
  unfold Collector.step
  split
  · rename_i hopen
    exact absurd hopen h.1
  · rename_i hclose
    exact absurd hclose h.2
  · cases current? (cut stream).segments <;> rfl

/-- Each step keeps the collector the summary of the tokens so far, and what it hands on is what the
text grows by. -/
theorem step_linked (token : Token) :
    ∃ yielded, ((cut stream).collector usages).step token =
        ((cut (stream ++ [(linkReferences usages token).1])).collector
          (linkReferences usages token).2, yielded) ∧
      (cut (stream ++ [(linkReferences usages token).1])).text = (cut stream).text ++ yielded := by
  by_cases hmarker : isMarker token = true
  · have hkind := hmarker
    rw [isMarker, Bool.or_eq_true, beq_iff_eq, beq_iff_eq] at hkind
    have hinline : token.kind ≠ .inline := by
      rcases hkind with hopen | hclose
      · rw [hopen]
        exact nofun
      · rw [hclose]
        exact nofun
    refine ⟨[], ?_, ?_⟩
    · rw [linkReferences_of_ne hinline]
      rcases hkind with hopen | hclose
      · exact step_footnoteOpen stream usages hopen
      · exact step_footnoteClose stream usages hclose
    · rw [linkReferences_of_ne hinline, text_concat_marker hmarker, List.append_nil]
  · have hnot : isMarker token = false := Bool.eq_false_iff.mpr hmarker
    have hlinked : isMarker (linkReferences usages token).1 = false := by
      rw [isMarker, linkReferences_kind]
      exact hnot
    exact ⟨_, step_token stream usages hnot, (cut_concat_spec hlinked stream).1⟩

/-- The walk over a stream gives what its pieces say. -/
theorem collect_linked (stream : List Token) :
    Collector.collect {} stream =
      ((cut (linkAll [] stream).1).collector (linkAll [] stream).2,
        (cut (linkAll [] stream).1).text) := by
  induction stream using List.reverseRecOn with
  | nil => rfl
  | append_singleton stream token ih =>
    obtain ⟨yielded, hstep, htext⟩ :=
      step_linked (linkAll [] stream).1 (linkAll [] stream).2 token
    rw [Collector.collect_append, ih, linkAll_concat]
    simp only [Collector.collect, hstep, htext, List.append_nil]

end Walk

section Streams

/-- Take in several streams, one after the other. -/
def Collector.collectAll (collector : Collector) : List (List Token) → Collector × List Token
  | [] => (collector, [])
  | stream :: streams =>
    let first := collector.collect stream
    let others := first.1.collectAll streams
    (others.1, first.2 ++ others.2)

/-- Several streams are taken in like one. -/
theorem Collector.collectAll_eq (collector : Collector) (streams : List (List Token)) :
    collector.collectAll streams = collector.collect streams.flatten := by
  induction streams generalizing collector with
  | nil => rfl
  | cons stream streams ih =>
    rw [List.flatten_cons, collect_append, collectAll, ih]

/-- Whatever the order of the markers is, collecting footnotes is cutting the stream at them, its
references replaced. Text is what stands in front of all markers or behind one that ends a
definition; the first ended definition of each name is kept; and the markers give their warnings one
after the other. -/
theorem collectAll_eq_cut (streams : List (List Token)) :
    let linked := linkAll [] streams.flatten
    let pieces := cut linked.1
    let collected := Collector.collectAll {} streams
    List.Forall₂ IsLinked streams.flatten linked.1 ∧
      IsCut linked.1 pieces ∧
      collected.2 = pieces.text ∧
      collected.1.definitions = firsts (ended pieces.segments) ∧
      collected.1.warnings = warnings pieces.segments ∧
      collected.1.usages = linked.2 := by
  intro linked pieces collected
  have hcollected : collected = (pieces.collector linked.2, pieces.text) := by
    rw [← collect_linked, ← Collector.collectAll_eq]
  rw [hcollected]
  exact ⟨linkAll_forall₂ [] streams.flatten, isCut_cut linked.1, rfl, rfl, rfl, rfl⟩

end Streams

end Folio.Footnote
