import Folio.Proofs.Footnote.Item
import Folio.Proofs.Footnote.Placement
import Folio.Proofs.Page.Nesting

/-!
# Collecting footnotes keeps streams nested

Whatever stands between the markers of a definition is a nested stream, and so is what is left when
it is taken out together with them. Links back join the last paragraph of a body, in front of the
token that closes it.
-/

namespace Folio.Footnote

open Page

section Links

/-- Replacing references keeps a token at its place among the brackets. -/
theorem IsLinked.sameFrame {token linked : Token} (h : IsLinked token linked) :
    token.SameFrame linked := by
  rw [IsLinked] at h
  split at h
  · rename_i hinline
    obtain ⟨children, rfl, -⟩ := h
    exact ⟨⟨rfl, rfl⟩, fun hhtml => absurd (hinline.symm.trans hhtml) (by decide)⟩
  · rw [h]
    exact .refl token

theorem sameFrame_linkAll (usages : List Usage) (stream : List Token) :
    List.Forall₂ Token.SameFrame stream (linkAll usages stream).1 :=
  (linkAll_forall₂ usages stream).imp fun _ _ => IsLinked.sameFrame

end Links

section Collecting

variable {collector : Collector} {before inner after stream other : List Token}

/-- Between definitions, with nested bodies kept so far. -/
structure Collector.HasNested (collector : Collector) : Prop where
  current : collector.current = none
  definitions : ∀ definition ∈ collector.definitions, Nested Wrapped definition.body

/-- Ending a definition with a nested body keeps bodies nested. -/
theorem Collector.hasNested_closeDefinition {definition : Definition}
    (hcurrent : collector.current = some definition) (hbody : Nested Wrapped definition.body)
    (hkept : ∀ definition ∈ collector.definitions, Nested Wrapped definition.body) :
    collector.closeDefinition.HasNested := by
  unfold Collector.closeDefinition
  rw [hcurrent]
  dsimp only
  split
  · exact ⟨rfl, hkept⟩
  · exact ⟨rfl, List.forall_mem_append.mpr ⟨hkept, List.forall_mem_singleton.mpr hbody⟩⟩

/-- Between definitions, collecting a stream hands on a nested stream and ends between
definitions. -/
def CollectsNested (stream : List Token) : Prop :=
  ∀ collector : Collector, collector.HasNested →
    (collector.collect stream).1.HasNested ∧ Nested Wrapped (collector.collect stream).2

theorem CollectsNested.append (h : CollectsNested stream) (hother : CollectsNested other) :
    CollectsNested (stream ++ other) := by
  intro collector hcollector
  obtain ⟨hmiddle, hfirst⟩ := h collector hcollector
  obtain ⟨hlast, hsecond⟩ := hother _ hmiddle
  rw [Collector.collect_append]
  exact ⟨hlast, hfirst.append hsecond⟩

private theorem forall_of_any {tokens : List Token} (h : tokens.any isMarker = false) :
    ∀ token ∈ tokens, isMarker token = false := by simpa using h

/-- A token that is no bracket is handed on. -/
theorem collectsNested_alone {token : Token} (hnesting : token.nesting = .alone)
    (hkind : token.kind.isBracket = false) : CollectsNested [token] := by
  rintro ⟨definitions, usages, _, warnings⟩ ⟨rfl, hkept⟩
  have hmarkers : ∀ other ∈ [token], isMarker other = false :=
    List.forall_mem_singleton.mpr (isMarker_of_isBracket hkind)
  have hsame := (isLinked_linkReferences usages token).sameFrame
  rw [collect_outside hmarkers]
  refine ⟨⟨rfl, hkept⟩, Nested.of_alone ?_⟩
  rw [linkAll, linkAll, List.forall_mem_singleton, hsame.nesting, hsame.kind]
  exact ⟨hnesting, hkind⟩

/-- A bracket that is no definition is handed on around what is handed on of its inside. -/
theorem collectsNested_framed (hframe : Wrapped before inner after)
    (hbefore : before.any isMarker = false) (hafter : after.any isMarker = false)
    (hinner : CollectsNested inner) : CollectsNested (before ++ inner ++ after) := by
  rintro ⟨definitions, usages, _, warnings⟩ ⟨rfl, hkept⟩
  -- The tokens in front only count references, so the inside is collected with the same definitions.
  obtain ⟨⟨hcurrent, hmiddle⟩, hbody⟩ :=
    hinner ⟨definitions, (linkAll usages before).2, none, warnings⟩ ⟨rfl, hkept⟩
  generalize hcollected :
    Collector.collect ⟨definitions, (linkAll usages before).2, none, warnings⟩ inner = collected
    at hcurrent hmiddle hbody
  obtain ⟨⟨definitions', usages', current', warnings'⟩, inner'⟩ := collected
  obtain rfl : current' = none := hcurrent
  rw [Collector.collect_append, Collector.collect_append, collect_outside (forall_of_any hbefore)]
  dsimp only
  rw [hcollected]
  dsimp only
  rw [collect_outside (forall_of_any hafter)]
  have hframe' := hframe.of_sameFrame (sameFrame_linkAll usages before)
    (sameFrame_linkAll usages' after) inner'
  have hframed := Nested.framed hframe' hbody .nil
  rw [List.append_nil] at hframed
  exact ⟨⟨rfl, hmiddle⟩, hframed⟩

/-- A definition is taken out with its markers, and its body is what has been between them. -/
theorem collectsNested_definition {opening closing : Token}
    (hopening : opening.kind = .footnoteOpen) (hclosing : closing.kind = .footnoteClose)
    (hmarkers : inner.any isMarker = false) (hinner : Nested (Apart Wrapped) inner) :
    CollectsNested ([opening] ++ inner ++ [closing]) := by
  rintro ⟨definitions, usages, _, warnings⟩ ⟨rfl, hkept⟩
  have hbody : Nested Wrapped (linkAll usages inner).1 :=
    nested_of_apart (nested_of_sameFrame hinner (sameFrame_linkAll usages inner))
  have hopened : Collector.openDefinition ⟨definitions, usages, none, warnings⟩
      (escapedName opening) = ⟨definitions, usages, some ⟨escapedName opening, []⟩, warnings⟩ := rfl
  simp only [Collector.collect_append, Collector.collect, step_of_open hopening, hopened,
    collect_inside (forall_of_any hmarkers), step_of_close hclosing, List.nil_append]
  exact ⟨Collector.hasNested_closeDefinition rfl hbody hkept, .nil⟩

/-- The tokens around an inner stream are both markers or both none. -/
theorem any_isMarker_wrapped (h : Wrapped before inner after) :
    after.any isMarker = before.any isMarker := by
  cases h with
  | tags hmatches _ => simp [isMarker_closing hmatches]
  | table hmatches _ =>
    have hopen : isMarker tableWrapperOpen = false := rfl
    have hclose : isMarker tableWrapperClose = false := rfl
    simp [isMarker_closing hmatches, hopen, hclose]

/-- The only frames with markers are those of definitions. -/
theorem exists_definition_of_wrapped (h : Wrapped before inner after)
    (hmarker : before.any isMarker = true) :
    ∃ opening closing, before = [opening] ∧ after = [closing] ∧ opening.kind = .footnoteOpen ∧
      closing.kind = .footnoteClose := by
  cases h with
  | @tags opening closing _ hmatches _ =>
    rw [List.any_cons, List.any_nil, Bool.or_false, isMarker_opening hmatches] at hmarker
    exact ⟨opening, closing, rfl, rfl, hmarker, hmatches.footnoteOpen_iff.mp hmarker⟩
  | table _ hkind => simp [isMarker, hkind, tableWrapperOpen, Token.html] at hmarker

/-- Taking definitions that are apart out of a nested stream leaves it nested, and the bodies are
nested, too. -/
theorem collectsNested_of_nested (h : Nested (Apart Wrapped) stream) : CollectsNested stream := by
  induction h with
  | nil => exact fun collector hcollector => ⟨hcollector, .nil⟩
  | alone hnesting hkind _ ih => exact (collectsNested_alone hnesting hkind).append ih
  | @framed before _ after _ hframe hinner _ ihinner ihrest =>
    obtain ⟨hframe, hmarkers⟩ := hframe
    refine CollectsNested.append ?_ ihrest
    cases hbefore : before.any isMarker with
    | false =>
      exact collectsNested_framed hframe hbefore ((any_isMarker_wrapped hframe).trans hbefore)
        ihinner
    | true =>
      obtain ⟨opening, closing, rfl, rfl, hopening, hclosing⟩ :=
        exists_definition_of_wrapped hframe hbefore
      exact collectsNested_definition hopening hclosing
        (hmarkers.resolve_left (by rw [hbefore]; decide)) hinner

end Collecting

section Items

variable {stream front body extra : List Token} {last : Token}

/-- A nested stream may be put in front of the token that closes the last paragraph. -/
theorem nested_insert (h : Nested Wrapped stream) (hextra : Nested Wrapped extra)
    (hstream : stream = front ++ [last]) (hlast : last.kind = .paragraphClose) :
    Nested Wrapped (front ++ extra ++ [last]) := by
  induction h generalizing front with
  | nil => exact absurd hstream.symm (by simp)
  | @alone token rest hnesting hkind _ ih =>
    cases front with
    | nil =>
      obtain ⟨rfl, rfl⟩ := List.cons.inj hstream
      exact hextra.append (.alone hnesting hkind .nil)
    | cons first front =>
      obtain ⟨rfl, hrest⟩ := List.cons.inj hstream
      exact .alone hnesting hkind (ih hrest)
  | @framed before inner after rest hframe hinner _ _ ihrest =>
    rcases List.eq_nil_or_concat' rest with rfl | ⟨rest, last', rfl⟩
    · rw [List.append_nil] at hstream
      cases hframe with
      | @tags opening closing _ hmatches hkind =>
        -- The inserted tokens go to the end of the inner stream.
        obtain ⟨rfl, hclosing⟩ := List.append_inj' hstream rfl
        obtain rfl := List.singleton_inj.mp hclosing
        have hframed := Nested.framed (.tags hmatches hkind) (hinner.append hextra) .nil
        rwa [List.append_nil, ← List.append_assoc] at hframed
      | table _ _ =>
        have hend := congrArg List.getLast? hstream
        rw [List.getLast?_append, List.getLast?_concat] at hend
        obtain rfl : tableWrapperClose = last := Option.some.inj hend
        exact nomatch hlast
    · rw [← List.append_assoc] at hstream
      obtain ⟨rfl, hend⟩ := List.append_inj' hstream rfl
      obtain rfl := List.singleton_inj.mp hend
      rw [List.append_assoc, List.append_assoc, ← List.append_assoc rest]
      exact .framed hframe hinner (ihrest rfl)

theorem nested_appendInside (hbody : Nested Wrapped body) (hextra : Nested Wrapped extra) :
    Nested Wrapped (appendInside body extra) := by
  unfold appendInside
  split
  · rename_i last hlast
    split
    · rename_i hkind
      exact nested_insert hbody hextra (List.dropLast_append_getLast? last hlast).symm hkind
    · exact hbody.append hextra
  · exact hextra

/-- An item of the footnote list is a pair of tags around a nested stream. -/
theorem exists_nested_itemTokens {definition : Definition} (h : Nested Wrapped definition.body)
    (pageId : String) (usage : Usage) :
    ∃ inner, Nested Wrapped inner ∧ itemTokens pageId usage definition =
      .html ("<li id=\"" ++ itemId definition.name ++ "\">") :: (inner ++ [.html "</li>\n"]) := by
  refine ⟨_, nested_appendInside h (Nested.of_alone ?_), itemTokens_eq pageId usage definition⟩
  intro token htoken
  obtain ⟨occurrence, -, -, rfl⟩ := mem_backlinks.mp htoken
  exact ⟨rfl, rfl⟩

end Items

end Folio.Footnote
