import Folio.Book.Page
import Folio.Proofs.Footnote.Collect
import Folio.Proofs.Page.HeadingText
import Folio.Proofs.Token.Nesting

/-!
# Passes keep streams nested

Passes that rewrite tokens one by one keep every token at its place among the brackets. Wrapping
puts every table of a nested stream into a bracket of its own, made of the wrapper's tags, and
anchoring headings leaves the wrappers as they are.
-/

namespace Folio.Token

theorem nesting_mapAttr (token : Token) (name : String) (f : List Char → List Char) :
    (token.mapAttr name f).nesting = token.nesting := by
  rw [mapAttr]
  split <;> rfl

/-- Resolving destinations keeps a token at its place among the brackets. -/
theorem sameBracket_resolveLinks (context : Page.Context) (token : Token) :
    token.SameBracket (token.resolveLinks context) := by
  refine ⟨kind_resolveLinks context token, ?_⟩
  by_cases h : token.kind = .inline
  · rw [resolveLinks_of_inline context token h]
  · rw [resolveLinks_of_ne_inline context token h]
    unfold resolveOwn
    split
    · split
      · rfl
      · exact nesting_mapAttr ..
    · exact nesting_mapAttr ..
    · rfl
    · rfl
    · rfl

/-- What the passes behind wrapping leave of a token: its place among the brackets, and the whole
token if it is raw HTML between blocks. -/
structure SameFrame (token other : Token) : Prop extends SameBracket token other where
  html : token.kind = .htmlBlock → other = token

theorem SameFrame.refl (token : Token) : token.SameFrame token := ⟨⟨rfl, rfl⟩, fun _ => rfl⟩

end Folio.Token

namespace Folio.Page

open Folio.Footnote

/-- The frame of streams with wrapped tables: the wrapper's tags are a bracket around every table,
and tables do not stand without it. -/
inductive Wrapped : List Token → List Token → List Token → Prop
  | tags {opening closing : Token} {inner : List Token} (h : opening.Matches closing)
      (hkind : opening.kind ≠ .tableOpen) : Wrapped [opening] inner [closing]
  | table {opening closing : Token} {inner : List Token} (h : opening.Matches closing)
      (hkind : opening.kind = .tableOpen) :
      Wrapped [tableWrapperOpen, opening] inner [closing, tableWrapperClose]

/-- A frame of which either the tokens around the inner stream or those in it are no markers, so
that definitions hold no definitions. -/
def Apart (Frame : List Token → List Token → List Token → Prop)
    (before inner after : List Token) : Prop :=
  Frame before inner after ∧ (before.any isMarker = false ∨ inner.any isMarker = false)

/-- No definition of a footnote is opened between the markers of another one. -/
def HasDefinitionsApart (stream : List Token) : Prop :=
  ∀ before opening inner closing after,
    stream = before ++ opening :: (inner ++ closing :: after) → opening.Matches closing →
    opening.kind = .footnoteOpen → Nested Paired inner →
    ∀ token ∈ inner, token.kind ≠ .footnoteOpen

/-- A single definition is apart. -/
theorem hasDefinitionsApart_of_countP {stream : List Token}
    (h : stream.countP (·.kind == .footnoteOpen) ≤ 1) : HasDefinitionsApart stream := by
  rintro before opening inner closing after rfl - hopening - token htoken hkind
  have hinner : 0 < inner.countP (·.kind == .footnoteOpen) :=
    List.countP_pos_iff.mpr ⟨token, htoken, beq_iff_eq.mpr hkind⟩
  have hcounted : (opening.kind == .footnoteOpen) = true := beq_iff_eq.mpr hopening
  rw [List.countP_append, List.countP_cons, if_pos hcounted, List.countP_append] at h
  omega

section Frames

variable {stream : List Token} {opening closing : Token}

theorem isMarker_of_isBracket {token : Token} (h : token.kind.isBracket = false) :
    isMarker token = false := by
  obtain ⟨-, -, hopen, hclose⟩ := Token.Kind.isBracket_eq_false_iff.mp h
  rw [isMarker, Bool.or_eq_false_iff, beq_eq_false_iff_ne, beq_eq_false_iff_ne]
  exact ⟨hopen, hclose⟩

/-- A bracket is one of a definition if the token that opens it is a marker. -/
theorem isMarker_opening (h : opening.Matches closing) :
    isMarker opening = true ↔ opening.kind = .footnoteOpen := by
  rw [isMarker, Bool.or_eq_true, beq_iff_eq, beq_iff_eq]
  exact or_iff_left h.opening_ne_footnoteClose

theorem isMarker_closing (h : opening.Matches closing) :
    isMarker closing = isMarker opening := by
  rw [Bool.eq_iff_iff, isMarker_opening h, h.footnoteOpen_iff, isMarker, Bool.or_eq_true,
    beq_iff_eq, beq_iff_eq]
  exact or_iff_right h.closing_ne_footnoteOpen

/-- Where no definition is opened, there are no markers at all. -/
theorem any_isMarker_of_nested (h : Nested Paired stream)
    (hopen : ∀ token ∈ stream, token.kind ≠ .footnoteOpen) : stream.any isMarker = false := by
  induction h with
  | nil => rfl
  | alone _ hkind _ ih =>
    rw [List.forall_mem_cons] at hopen
    rw [List.any_cons, isMarker_of_isBracket hkind, ih hopen.2]
    rfl
  | framed hframe _ _ ihinner ihrest =>
    obtain ⟨hmatches⟩ := hframe
    simp only [List.forall_mem_append, List.forall_mem_singleton] at hopen
    obtain ⟨⟨⟨hopening, hinner⟩, -⟩, hrest⟩ := hopen
    have hnot : isMarker _ = false :=
      Bool.eq_false_iff.mpr fun hmarker => hopening ((isMarker_opening hmatches).mp hmarker)
    simp only [List.any_append, List.any_cons, List.any_nil, isMarker_closing hmatches, hnot,
      ihinner hinner, ihrest hrest, Bool.or_false]

/-- Definitions that are apart in a stream are so in its brackets. -/
theorem nested_apart (h : Nested Paired stream) (hapart : HasDefinitionsApart stream) :
    Nested (Apart Paired) stream := by
  induction h with
  | nil => exact .nil
  | @alone token rest hnesting hkind _ ih =>
    refine .alone hnesting hkind (ih ?_)
    intro before opening inner closing after heq
    exact hapart (token :: before) opening inner closing after (congrArg (token :: ·) heq)
  | @framed _ inner _ rest hframe hinner _ ihinner ihrest =>
    obtain @⟨opening, closing, _, hmatches⟩ := hframe
    have hstream : [opening] ++ inner ++ [closing] ++ rest =
        [] ++ opening :: (inner ++ closing :: rest) := by simp
    have hmarkers : [opening].any isMarker = false ∨ inner.any isMarker = false := by
      cases hmarker : isMarker opening with
      | false => exact Or.inl (by rw [List.any_cons, hmarker, List.any_nil, Bool.or_false])
      | true =>
        exact Or.inr (any_isMarker_of_nested hinner
          (hapart _ _ _ _ _ hstream hmatches ((isMarker_opening hmatches).mp hmarker) hinner))
    refine .framed ⟨.tags hmatches, hmarkers⟩ (ihinner ?_) (ihrest ?_)
    · intro before first inside last after heq
      refine hapart (opening :: before) first inside last (after ++ closing :: rest) ?_
      rw [hstream, heq]
      simp
    · intro before first inside last after heq
      refine hapart (opening :: (inner ++ closing :: before)) first inside last after ?_
      rw [hstream, heq]
      simp

/-- A stream whose definitions are apart is nested. -/
theorem nested_of_apart {Frame : List Token → List Token → List Token → Prop}
    (h : Nested (Apart Frame) stream) : Nested Frame stream := by
  refine h.imp fun hframe hinner => ?_
  have hframed := Nested.framed hframe.1 hinner .nil
  rwa [List.append_nil] at hframed

/-- A stream with wrapped tables is nested without the wrappers as brackets, too. -/
theorem nested_paired (h : Nested Wrapped stream) : Nested Paired stream := by
  refine h.imp fun hframe hinner => ?_
  cases hframe with
  | tags hmatches _ => exact .pair hmatches hinner .nil
  | table hmatches _ => exact .alone rfl rfl (.pair hmatches hinner (.alone rfl rfl .nil))

end Frames

section Rewriting

variable {stream other : List Token}

theorem any_isMarker_of_sameBracket (h : List.Forall₂ Token.SameBracket stream other) :
    other.any isMarker = stream.any isMarker := by
  induction h with
  | nil => rfl
  | cons hsame _ ih => rw [List.any_cons, List.any_cons, ih, isMarker, isMarker, hsame.kind]

/-- Tokens rewritten at their places among the brackets leave a stream nested. -/
theorem nested_of_sameBracket (h : Nested (Apart Paired) stream)
    (hsame : List.Forall₂ Token.SameBracket stream other) : Nested (Apart Paired) other := by
  refine h.of_forall₂ id (fun hframe hbefore hinner hafter => ?_) hsame
  obtain ⟨⟨hmatches⟩, hmarkers⟩ := hframe
  rw [← any_isMarker_of_sameBracket hbefore, ← any_isMarker_of_sameBracket hinner] at hmarkers
  obtain _ | ⟨hopening, _ | _⟩ := hbefore
  obtain _ | ⟨hclosing, _ | _⟩ := hafter
  exact ⟨.tags (hmatches.of_sameBracket hopening hclosing), hmarkers⟩

theorem Wrapped.of_sameFrame {before inner after before' after' : List Token}
    (h : Wrapped before inner after) (hbefore : List.Forall₂ Token.SameFrame before before')
    (hafter : List.Forall₂ Token.SameFrame after after') (inner' : List Token) :
    Wrapped before' inner' after' := by
  cases h with
  | tags hmatches hkind =>
    obtain _ | ⟨hopening, _ | _⟩ := hbefore
    obtain _ | ⟨hclosing, _ | _⟩ := hafter
    exact .tags (hmatches.of_sameBracket hopening.toSameBracket hclosing.toSameBracket)
      (by rwa [hopening.kind])
  | table hmatches hkind =>
    obtain _ | ⟨hwrapper, _ | ⟨hopening, _ | _⟩⟩ := hbefore
    obtain _ | ⟨hclosing, _ | ⟨hend, _ | _⟩⟩ := hafter
    rw [hwrapper.html rfl, hend.html rfl]
    exact .table (hmatches.of_sameBracket hopening.toSameBracket hclosing.toSameBracket)
      (by rwa [hopening.kind])

/-- If raw HTML stays as it is, the wrappers stay around the tables. -/
theorem nested_of_sameFrame (h : Nested (Apart Wrapped) stream)
    (hsame : List.Forall₂ Token.SameFrame stream other) : Nested (Apart Wrapped) other := by
  refine h.of_forall₂ Token.SameFrame.toSameBracket
    (fun hframe hbefore hinner hafter => ⟨hframe.1.of_sameFrame hbefore hafter _, ?_⟩) hsame
  have hmarkers := hframe.2
  rwa [← any_isMarker_of_sameBracket (hbefore.imp fun _ _ => Token.SameFrame.toSameBracket),
    ← any_isMarker_of_sameBracket (hinner.imp fun _ _ => Token.SameFrame.toSameBracket)]
    at hmarkers

end Rewriting

section Passes

variable {stream : List Token}

theorem any_isMarker_wrapTable (token : Token) :
    (wrapTable token).any isMarker = isMarker token := by
  unfold wrapTable
  split <;> simp [isMarker, tableWrapperOpen, tableWrapperClose, Token.html]

theorem any_isMarker_wrapTables (tokens : List Token) :
    (wrapTables tokens).any isMarker = tokens.any isMarker := by
  induction tokens with
  | nil => rfl
  | cons token rest ih =>
    rw [wrapTables, List.flatMap_cons, List.any_append, any_isMarker_wrapTable, List.any_cons, ← ih,
      wrapTables]

/-- Wrapping puts the tables of a nested stream into brackets of their own. -/
theorem nested_wrapTables (h : Nested (Apart Paired) stream) :
    Nested (Apart Wrapped) (wrapTables stream) := by
  induction h with
  | nil => exact .nil
  | alone hnesting hkind _ ih =>
    obtain ⟨hopen, hclose, -, -⟩ := Token.Kind.isBracket_eq_false_iff.mp hkind
    rw [wrapTables, List.flatMap_cons, wrapTable_of_ne hopen hclose]
    exact .alone hnesting hkind ih
  | @framed _ inner _ _ hframe _ _ ihinner ihrest =>
    obtain ⟨@⟨opening, closing, _, hmatches⟩, hmarkers⟩ := hframe
    have hmarkers' : (wrapTable opening).any isMarker = false ∨
        (wrapTables inner).any isMarker = false := by
      rw [any_isMarker_wrapTable, any_isMarker_wrapTables]
      simpa using hmarkers
    rw [wrapTables, List.flatMap_append, List.flatMap_append, List.flatMap_append,
      List.flatMap_singleton, List.flatMap_singleton]
    refine .framed ⟨?_, hmarkers'⟩ ihinner ihrest
    by_cases hkind : opening.kind = .tableOpen
    · have hopening : wrapTable opening = [tableWrapperOpen, opening] := by rw [wrapTable, hkind]
      have hclosing : wrapTable closing = [closing, tableWrapperClose] := by
        rw [wrapTable, hmatches.tableOpen_iff.mp hkind]
      rw [hopening, hclosing]
      exact .table hmatches hkind
    · rw [wrapTable_of_ne hkind hmatches.opening_ne_tableClose,
        wrapTable_of_ne hmatches.closing_ne_tableOpen (mt hmatches.tableOpen_iff.mpr hkind)]
      exact .tags hmatches hkind

/-- Joining the words of a fence keeps a token at its place among the brackets. -/
theorem sameBracket_joinFenceInfo (token : Token) : token.SameBracket (joinFenceInfo token) := by
  rw [joinFenceInfo]
  split <;> exact ⟨rfl, rfl⟩

/-- Anchoring headings changes tokens that open headings and tokens with text only. -/
theorem sameFrame_anchorHeadings (context : Context) (counter : Anchor.Counter)
    (tokens : List Token) :
    List.Forall₂ Token.SameFrame tokens (anchorHeadings context counter tokens).1 := by
  induction tokens using headings.induct generalizing counter with
  | case1 => exact .nil
  | case2 token hopen =>
    rw [anchorHeadings, if_pos hopen]
    exact .cons (.refl token) .nil
  | case3 token hopen next rest hinline ih =>
    rw [anchorHeadings_heading context counter hopen hinline]
    exact .cons ⟨⟨rfl, rfl⟩, fun h => absurd (hopen.symm.trans h) (by decide)⟩
      (.cons ⟨⟨rfl, rfl⟩, fun h => absurd (hinline.symm.trans h) (by decide)⟩ (ih _))
  | case4 token hopen next rest hnot ih =>
    rw [anchorHeadings_passed context counter hopen hnot]
    exact .cons (.refl token) (.cons (.refl next) (ih counter))
  | case5 token rest hnot ih =>
    rw [anchorHeadings_other context counter hnot]
    exact .cons (.refl token) (ih counter)

end Passes

end Folio.Page
