import Folio.Proofs.Footnote.Listing

/-!
# Where a footnote is defined

A definition that stands outside of all others, holds no references and has a name of its own can be
moved to any such place. Walking over it keeps one more definition and changes nothing else, which
remains so for the rest of the stream; and the list of footnotes is ordered by numbers, so the place
among the definitions kept does not show.
-/

namespace Folio.Footnote

section Steps

variable {collector : Collector} {token : Token}

theorem step_of_open (h : token.kind = .footnoteOpen) :
    collector.step token = (collector.openDefinition (escapedName token), []) := by
  simp only [Collector.step, h]

theorem step_of_close (h : token.kind = .footnoteClose) :
    collector.step token = (collector.closeDefinition, []) := by
  simp only [Collector.step, h]

/-- Outside of definitions a token is handed on. -/
theorem step_outside (h : isMarker token = false) (hcurrent : collector.current = none) :
    collector.step token =
      ({ collector with usages := (linkReferences collector.usages token).2 },
        [(linkReferences collector.usages token).1]) := by
  obtain ⟨definitions, usages, current, warnings⟩ := collector
  subst hcurrent
  rw [isMarker, Bool.or_eq_false_iff, beq_eq_false_iff_ne, beq_eq_false_iff_ne] at h
  unfold Collector.step
  split
  · exact absurd ‹_› h.1
  · exact absurd ‹_› h.2
  · rfl

/-- Inside of a definition a token joins its body. -/
theorem step_inside (h : isMarker token = false) {inner : Definition}
    (hcurrent : collector.current = some inner) :
    collector.step token =
      ({ collector with
          usages := (linkReferences collector.usages token).2
          current := some (inner.grow (linkReferences collector.usages token).1) }, []) := by
  obtain ⟨definitions, usages, current, warnings⟩ := collector
  subst hcurrent
  rw [isMarker, Bool.or_eq_false_iff, beq_eq_false_iff_ne, beq_eq_false_iff_ne] at h
  unfold Collector.step
  split
  · exact absurd ‹_› h.1
  · exact absurd ‹_› h.2
  · rfl

/-- Ending a definition leaves no definition open. -/
theorem current_closeDefinition : collector.closeDefinition.current = none := by
  unfold Collector.closeDefinition
  split
  · assumption
  · dsimp only
    split <;> rfl

/-- A token is a marker of one kind or the other, or no marker. -/
theorem kind_cases (token : Token) :
    token.kind = .footnoteOpen ∨ token.kind = .footnoteClose ∨ isMarker token = false := by
  rw [isMarker, Bool.or_eq_false_iff, beq_eq_false_iff_ne, beq_eq_false_iff_ne]
  by_cases hopen : token.kind = .footnoteOpen
  · exact Or.inl hopen
  · by_cases hclose : token.kind = .footnoteClose
    · exact Or.inr (Or.inl hclose)
    · exact Or.inr (Or.inr ⟨hopen, hclose⟩)

end Steps

section Walk

namespace Collector

/-- No definition kept or open has a name. -/
structure Avoids (name : String) (collector : Collector) : Prop where
  definitions : ∀ definition ∈ collector.definitions, definition.name ≠ name
  current : ∀ definition ∈ collector.current, definition.name ≠ name

/-- The second collector has kept one more definition than the first, which avoids its name. -/
structure Gains (definition : Definition) (collector other : Collector) : Prop where
  avoids : collector.Avoids definition.name
  gained : ∃ earlier later, collector.definitions = earlier ++ later ∧
    other = { collector with definitions := earlier ++ definition :: later }

variable {definition : Definition} {name : String} {collector other : Collector} {token : Token}

theorem avoids_empty (name : String) : Avoids name {} := ⟨by simp, by simp⟩

theorem Avoids.closeDefinition (h : collector.Avoids name) :
    collector.closeDefinition.Avoids name := by
  unfold Collector.closeDefinition
  split
  · exact h
  · rename_i inner hcurrent
    dsimp only
    split
    · exact ⟨h.definitions, nofun⟩
    · refine ⟨fun kept hkept => ?_, nofun⟩
      rcases List.mem_append.mp hkept with hkept | hkept
      · exact h.definitions kept hkept
      · rw [List.mem_singleton.mp hkept]
        exact h.current inner hcurrent

/-- Entering a definition with another name, noting warnings and counting references leave a name
avoided. -/
theorem Avoids.enter (h : collector.Avoids name) {inner : Definition} (hinner : inner.name ≠ name)
    (usages : List Usage) :
    Avoids name { collector with usages, current := some inner } := by
  refine ⟨h.definitions, ?_⟩
  rintro _ ⟨rfl⟩
  exact hinner

theorem Avoids.openDefinition (h : collector.Avoids name) {fresh : String} (hfresh : fresh ≠ name) :
    (collector.openDefinition fresh).Avoids name := by
  have hwarned : Avoids name { collector with warnings := collector.warnings ++ [.nested] } :=
    ⟨h.definitions, h.current⟩
  unfold Collector.openDefinition
  dsimp only
  split
  · exact hwarned.closeDefinition.enter hfresh _
  · exact h.enter hfresh _

/-- A name stays avoided unless a definition with it begins. -/
theorem Avoids.step (h : collector.Avoids name)
    (htoken : token.kind = .footnoteOpen → escapedName token ≠ name) :
    (collector.step token).1.Avoids name := by
  rcases kind_cases token with hopen | hclose | hother
  · rw [step_of_open hopen]
    exact h.openDefinition (htoken hopen)
  · rw [step_of_close hclose]
    exact h.closeDefinition
  · cases hcurrent : collector.current with
    | none =>
      rw [step_outside hother hcurrent]
      exact ⟨h.definitions, h.current⟩
    | some inner =>
      have hgrown : (inner.grow (linkReferences collector.usages token).1).name ≠ name :=
        h.current inner hcurrent
      rw [step_inside hother hcurrent]
      exact h.enter hgrown _

theorem Avoids.collect (h : collector.Avoids name) {stream : List Token}
    (hstream : ∀ token ∈ stream, token.kind = .footnoteOpen → escapedName token ≠ name) :
    (collector.collect stream).1.Avoids name := by
  induction stream generalizing collector with
  | nil => exact h
  | cons token rest ih =>
    exact ih (h.step (hstream token List.mem_cons_self))
      fun other hother => hstream other (List.mem_cons_of_mem _ hother)

theorem Gains.closeDefinition (h : collector.Gains definition other) :
    collector.closeDefinition.Gains definition other.closeDefinition := by
  refine ⟨h.avoids.closeDefinition, ?_⟩
  obtain ⟨earlier, later, hdefinitions, rfl⟩ := h.gained
  have havoids := h.avoids
  obtain ⟨definitions, usages, current, warnings⟩ := collector
  cases current with
  | none => exact ⟨earlier, later, hdefinitions, rfl⟩
  | some inner =>
    have hne : definition.name ≠ inner.name := Ne.symm (havoids.current inner rfl)
    have hany : (earlier ++ definition :: later).any (·.name = inner.name) =
        definitions.any (·.name = inner.name) := by
      rw [show definitions = earlier ++ later from hdefinitions]
      simp [hne]
    simp only [Collector.closeDefinition, hany]
    split
    · exact ⟨earlier, later, hdefinitions, rfl⟩
    · refine ⟨earlier, later ++ [inner], ?_, by simp⟩
      rw [show definitions = earlier ++ later from hdefinitions, List.append_assoc]

theorem Gains.openDefinition (h : collector.Gains definition other) {fresh : String}
    (hfresh : fresh ≠ definition.name) :
    (collector.openDefinition fresh).Gains definition (other.openDefinition fresh) := by
  refine ⟨h.avoids.openDefinition hfresh, ?_⟩
  obtain ⟨earlier, later, hdefinitions, rfl⟩ := h.gained
  have hwarned : Gains definition
      { collector with warnings := collector.warnings ++ [.nested] }
      { collector with
          definitions := earlier ++ definition :: later
          warnings := collector.warnings ++ [.nested] } :=
    ⟨⟨h.avoids.definitions, h.avoids.current⟩, earlier, later, hdefinitions, rfl⟩
  obtain ⟨earlier', later', hdefinitions', hother⟩ := hwarned.closeDefinition.gained
  unfold Collector.openDefinition
  dsimp only
  split
  · exact ⟨earlier', later', hdefinitions', by simp only [hother]⟩
  · exact ⟨earlier, later, hdefinitions, rfl⟩

/-- One more definition kept makes no difference to a step that begins none of its name. -/
theorem Gains.step (h : collector.Gains definition other)
    (htoken : token.kind = .footnoteOpen → escapedName token ≠ definition.name) :
    (collector.step token).1.Gains definition (other.step token).1 ∧
      (other.step token).2 = (collector.step token).2 := by
  have havoids := h.avoids.step htoken
  rcases kind_cases token with hopen | hclose | hother
  · rw [step_of_open hopen, step_of_open hopen]
    exact ⟨h.openDefinition (htoken hopen), rfl⟩
  · rw [step_of_close hclose, step_of_close hclose]
    exact ⟨h.closeDefinition, rfl⟩
  · obtain ⟨earlier, later, hdefinitions, rfl⟩ := h.gained
    rcases Option.eq_none_or_eq_some collector.current with hcurrent | ⟨inner, hcurrent⟩
    · rw [step_outside hother hcurrent] at havoids ⊢
      rw [step_outside hother (by exact hcurrent)]
      exact ⟨⟨havoids, earlier, later, hdefinitions, rfl⟩, rfl⟩
    · rw [step_inside hother hcurrent] at havoids ⊢
      rw [step_inside hother (by exact hcurrent)]
      exact ⟨⟨havoids, earlier, later, hdefinitions, rfl⟩, rfl⟩

theorem Gains.collect (h : collector.Gains definition other) {stream : List Token}
    (hstream : ∀ token ∈ stream, token.kind = .footnoteOpen →
      escapedName token ≠ definition.name) :
    (collector.collect stream).1.Gains definition (other.collect stream).1 ∧
      (other.collect stream).2 = (collector.collect stream).2 := by
  induction stream generalizing collector other with
  | nil => exact ⟨h, rfl⟩
  | cons token rest ih =>
    obtain ⟨hstep, hyielded⟩ := h.step (hstream token List.mem_cons_self)
    obtain ⟨hrest, hbody⟩ := ih hstep
      fun other hother => hstream other (List.mem_cons_of_mem _ hother)
    refine ⟨hrest, ?_⟩
    simp only [Collector.collect, hyielded, hbody]

end Collector

end Walk

section Blocks

variable {opening closing : Token} {body : List Token} {collector : Collector}

/-- A definition that holds neither markers nor references, between its own markers. -/
structure IsBlock (opening : Token) (body : List Token) (closing : Token) : Prop where
  opening_kind : opening.kind = .footnoteOpen
  closing_kind : closing.kind = .footnoteClose
  no_marker : ∀ token ∈ body, isMarker token = false
  no_reference : referenceNames body = []

/-- Outside of definitions tokens are handed on, their references replaced. -/
theorem collect_outside (hmarkers : ∀ token ∈ body, isMarker token = false)
    (definitions : List Definition) (usages : List Usage) (warnings : List Warning) :
    Collector.collect ⟨definitions, usages, none, warnings⟩ body =
      (⟨definitions, (linkAll usages body).2, none, warnings⟩, (linkAll usages body).1) := by
  induction body generalizing usages with
  | nil => rfl
  | cons token rest ih =>
    rw [List.forall_mem_cons] at hmarkers
    rw [Collector.collect, step_outside hmarkers.1 rfl]
    dsimp only
    rw [ih hmarkers.2, linkAll, List.singleton_append]

/-- Inside of a definition they join its body instead. -/
theorem collect_inside (hmarkers : ∀ token ∈ body, isMarker token = false)
    (definitions : List Definition) (usages : List Usage) (inner : Definition)
    (warnings : List Warning) :
    Collector.collect ⟨definitions, usages, some inner, warnings⟩ body =
      (⟨definitions, (linkAll usages body).2,
        some ⟨inner.name, inner.body ++ (linkAll usages body).1⟩, warnings⟩, []) := by
  induction body generalizing usages inner with
  | nil =>
    rw [linkAll, List.append_nil]
    rfl
  | cons token rest ih =>
    rw [List.forall_mem_cons] at hmarkers
    rw [Collector.collect, step_inside hmarkers.1 rfl]
    dsimp only
    rw [ih hmarkers.2, linkAll, Definition.grow, List.append_assoc, List.singleton_append,
      List.nil_append]

/-- Outside of definitions a block only adds its definition to those kept, if the name is new. -/
theorem collect_block (hblock : IsBlock opening body closing) (hcurrent : collector.current = none)
    (havoids : collector.Avoids (escapedName opening)) :
    (collector.collect (opening :: (body ++ [closing]))).2 = [] ∧
      collector.Gains ⟨escapedName opening, body⟩
        (collector.collect (opening :: (body ++ [closing]))).1 := by
  have hnew : (collector.definitions.any (·.name = escapedName opening)) = false := by
    rw [List.any_eq_false]
    intro definition hdefinition
    simpa using havoids.definitions definition hdefinition
  obtain ⟨definitions, usages, current, warnings⟩ := collector
  subst hcurrent
  have hopened : Collector.step ⟨definitions, usages, none, warnings⟩ opening =
      (⟨definitions, usages, some ⟨escapedName opening, []⟩, warnings⟩, []) :=
    step_of_open hblock.opening_kind
  have hcollected : Collector.collect ⟨definitions, usages, none, warnings⟩
      (opening :: (body ++ [closing])) =
      (⟨definitions ++ [⟨escapedName opening, body⟩], usages, none, warnings⟩, []) := by
    rw [Collector.collect, hopened]
    simp only [Collector.collect_append, Collector.collect,
      collect_inside hblock.no_marker, linkAll_of_no_names _ hblock.no_reference,
      step_of_close hblock.closing_kind, Collector.closeDefinition, List.nil_append, hnew]
    rfl
  rw [hcollected]
  exact ⟨rfl, havoids, definitions, [], (List.append_nil _).symm, rfl⟩

/-- No definition is open at the end of a stream: its last marker, if there is one, ends a
definition. -/
def EndsOutside (stream : List Token) : Prop :=
  ∀ marker ∈ (stream.filter isMarker).getLast?, marker.kind = .footnoteClose

theorem current_collect {stream : List Token} (h : EndsOutside stream) :
    (Collector.collect {} stream).1.current = none := by
  induction stream using List.reverseRecOn with
  | nil => rfl
  | append_singleton stream token ih =>
    rw [Collector.collect_append]
    simp only [Collector.collect]
    rw [EndsOutside, List.filter_append] at h
    rcases kind_cases token with hopen | hclose | hother
    · have hmarker : isMarker token = true := by rw [isMarker, hopen]; rfl
      have hlast := h token (by simp [hmarker])
      exact absurd (hopen.symm.trans hlast) (by decide)
    · rw [step_of_close hclose]
      exact current_closeDefinition
    · simp only [List.filter_cons, hother, List.filter_nil, List.append_nil, Bool.false_eq_true,
        if_false] at h
      have hcurrent := ih h
      rw [step_outside hother hcurrent]
      exact hcurrent

/-- Collecting a stream with a block at a place outside of definitions differs from collecting the
stream without it by the definition kept, if no other definition has its name. -/
theorem collect_with_block {before after : List Token} (hblock : IsBlock opening body closing)
    (hbefore : EndsOutside before)
    (hnames : ∀ token ∈ before ++ after, token.kind = .footnoteOpen →
      escapedName token ≠ escapedName opening) :
    let plain := Collector.collect {} (before ++ after)
    let full := Collector.collect {} (before ++ (opening :: (body ++ [closing])) ++ after)
    full.2 = plain.2 ∧ plain.1.Gains ⟨escapedName opening, body⟩ full.1 := by
  intro plain full
  have havoids : (Collector.collect {} before).1.Avoids (escapedName opening) :=
    (Collector.avoids_empty _).collect
      fun token htoken => hnames token (List.mem_append_left _ htoken)
  obtain ⟨hnothing, hgains⟩ := collect_block hblock (current_collect hbefore) havoids
  obtain ⟨hrest, hbody⟩ := hgains.collect
    fun token htoken => hnames token (List.mem_append_right _ htoken)
  simp only [plain, full, Collector.collect_append, hnothing, List.append_nil, hbody]
  exact ⟨trivial, hrest⟩

end Blocks

/-- Where a footnote is defined does not matter. A definition that holds no references and has a
name of its own may stand at either of two places of a stream where no other one is open: the text
of the page, the numbers and counts of the footnotes, the warnings about markers and the footnote
list are the same. -/
theorem collect_block_anywhere {before after before' after' body : List Token}
    {opening closing : Token} (hsplit : before ++ after = before' ++ after')
    (hblock : IsBlock opening body closing)
    (hnames : ∀ token ∈ before ++ after, token.kind = .footnoteOpen →
      escapedName token ≠ escapedName opening)
    (hbefore : EndsOutside before) (hbefore' : EndsOutside before') :
    let block := opening :: (body ++ [closing])
    let here := Collector.collect {} (before ++ block ++ after)
    let there := Collector.collect {} (before' ++ block ++ after')
    here.2 = there.2 ∧ here.1.usages = there.1.usages ∧ here.1.warnings = there.1.warnings ∧
      ∀ pageId serialize, here.1.appendix pageId serialize = there.1.appendix pageId serialize := by
  intro block here there
  obtain ⟨htext, hgains⟩ := collect_with_block hblock hbefore hnames
  rw [hsplit] at hnames htext hgains
  obtain ⟨htext', hgains'⟩ := collect_with_block hblock hbefore' hnames
  obtain ⟨earlier, later, hdefinitions, hhere⟩ := hgains.gained
  obtain ⟨earlier', later', hdefinitions', hthere⟩ := hgains'.gained
  have husages : here.1.usages = there.1.usages := by
    rw [show here.1 = _ from hhere, show there.1 = _ from hthere]
  have hperm : here.1.definitions.Perm there.1.definitions := by
    rw [show here.1 = _ from hhere, show there.1 = _ from hthere]
    refine List.perm_middle.trans (List.Perm.trans ?_ List.perm_middle.symm)
    rw [← hdefinitions, ← hdefinitions']
  have hlisted : here.1.listed = there.1.listed :=
    listed_perm (isRegular_collect _) husages hperm
  refine ⟨htext.trans htext'.symm, husages, ?_, ?_⟩
  · rw [show here.1 = _ from hhere, show there.1 = _ from hthere]
  · intro pageId serialize
    rw [Collector.appendix, Collector.appendix, hlisted]

/-- A definition in front of two others, of which the second begins inside the first, and behind
both: the definitions are kept in different orders. -/
theorem collect_block_anywhere_nested :
    let mark (name : String) : Token := { kind := .footnoteOpen, label := some name }
    let close : Token := { kind := .footnoteClose }
    let refer (name : String) : Token :=
      { kind := .inline, children := some [{ kind := .footnoteReference, label := some name }] }
    let before := [refer "n", close]
    let after := [mark "a", refer "n", mark "b", close]
    let block := [mark "n", .html "<p>", close]
    let here := Collector.collect {} (before ++ block ++ after)
    let there := Collector.collect {} (before ++ after ++ block)
    names here.1.definitions = ["n", "a", "b"] ∧ names there.1.definitions = ["a", "b", "n"] ∧
      here.2 = there.2 ∧ here.1.usages = there.1.usages ∧ here.1.warnings = there.1.warnings ∧
      ∀ pageId serialize,
        here.1.appendix pageId serialize = there.1.appendix pageId serialize := by
  intro mark close refer before after block here there
  have hblock : IsBlock (mark "n") [.html "<p>"] close := ⟨rfl, rfl, by decide, rfl⟩
  have hnames : ∀ token ∈ before ++ after, token.kind = .footnoteOpen →
      escapedName token ≠ escapedName (mark "n") := by
    simp only [before, after, List.cons_append, List.nil_append, List.forall_mem_cons]
    decide
  have hbefore : EndsOutside before := by
    rintro _ ⟨rfl⟩
    rfl
  have hbehind : EndsOutside (before ++ after) := by
    rintro _ ⟨rfl⟩
    rfl
  have hsame := collect_block_anywhere (List.append_nil (before ++ after)).symm hblock hnames
    hbefore hbehind
  simp only [List.append_nil] at hsame
  exact ⟨by decide, by decide, hsame⟩

end Folio.Footnote
