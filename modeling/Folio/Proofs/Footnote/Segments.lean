import Folio.Footnote.Collect
import Mathlib.Data.List.Induction

/-!
# Streams cut at footnote markers

The markers of a token stream cut it into the tokens in front of the first marker and one segment
behind each marker. What the segments say about footnotes is read off the cut stream without a
walk: which definitions have ended, which of them count, and what is odd about the markers. Each of
these grows in a simple way when one more token follows.
-/

namespace Folio.Footnote

open Folio.Text

/-- Whether a token begins or ends a definition. -/
def isMarker (token : Token) : Bool := token.kind == .footnoteOpen || token.kind == .footnoteClose

/-- A marker and the tokens between it and the next one. -/
structure Segment where
  marker : Token
  body : List Token

/-- The definition that a segment is, if its marker begins one. Its name is the escaped label. -/
def Segment.definition? (segment : Segment) : Option Definition :=
  if segment.marker.kind = .footnoteOpen then
    some ⟨.ofList (escapeSpecial (segment.marker.label.getD "").toList), segment.body⟩
  else none

/-- A stream cut at its markers. -/
structure Pieces where
  head : List Token
  segments : List Segment

/-- Cut a stream at its markers. -/
def cut : List Token → Pieces
  | [] => ⟨[], []⟩
  | token :: rest =>
    if isMarker token then ⟨[], ⟨token, (cut rest).head⟩ :: (cut rest).segments⟩
    else ⟨token :: (cut rest).head, (cut rest).segments⟩

/-- The pieces make up the stream, and its markers are those in front of the segments. -/
structure IsCut (stream : List Token) (pieces : Pieces) : Prop where
  eq_append : stream =
    pieces.head ++ pieces.segments.flatMap fun segment => segment.marker :: segment.body
  head : ∀ token ∈ pieces.head, isMarker token = false
  marker : ∀ segment ∈ pieces.segments, isMarker segment.marker = true
  body : ∀ segment ∈ pieces.segments, ∀ token ∈ segment.body, isMarker token = false

/-- Cutting is what its name says. -/
theorem isCut_cut (stream : List Token) : IsCut stream (cut stream) := by
  induction stream with
  | nil => exact ⟨rfl, nofun, nofun, nofun⟩
  | cons token rest ih =>
    rw [cut]
    by_cases hmarker : isMarker token = true
    · rw [if_pos hmarker]
      refine ⟨congrArg (token :: ·) ih.eq_append, nofun, ?_, ?_⟩
      · intro segment hs
        rcases List.mem_cons.mp hs with rfl | hs
        · exact hmarker
        · exact ih.marker segment hs
      · intro segment hs
        rcases List.mem_cons.mp hs with rfl | hs
        · exact ih.head
        · exact ih.body segment hs
    · rw [if_neg hmarker]
      refine ⟨congrArg (token :: ·) ih.eq_append, fun other ho => ?_, ih.marker, ih.body⟩
      rcases List.mem_cons.mp ho with rfl | ho
      · exact Bool.eq_false_iff.mpr hmarker
      · exact ih.head other ho

/-- A marker at the end begins a segment of its own. -/
theorem cut_concat_marker {token : Token} (h : isMarker token = true) (stream : List Token) :
    cut (stream ++ [token]) =
      ⟨(cut stream).head, (cut stream).segments ++ [⟨token, []⟩]⟩ := by
  induction stream with
  | nil => exact if_pos h
  | cons first rest ih =>
    rw [List.cons_append, cut, cut, ih]
    split <;> rfl

/-- Any other token at the end is put behind the last segment, or behind the head if there is no
segment. -/
theorem cut_concat {token : Token} (h : isMarker token = false) (stream : List Token) :
    (cut stream).segments = [] ∧ cut (stream ++ [token]) = ⟨(cut stream).head ++ [token], []⟩ ∨
      ∃ front last, (cut stream).segments = front ++ [last] ∧
        cut (stream ++ [token]) =
          ⟨(cut stream).head, front ++ [⟨last.marker, last.body ++ [token]⟩]⟩ := by
  induction stream with
  | nil => exact Or.inl ⟨rfl, if_neg (Bool.eq_false_iff.mp h)⟩
  | cons first rest ih =>
    rw [List.cons_append, cut, cut]
    rcases ih with ⟨hnone, hcut⟩ | ⟨front, last, hsome, hcut⟩
    · rw [hcut, hnone]
      split
      · exact Or.inr ⟨[], ⟨first, (cut rest).head⟩, rfl, rfl⟩
      · exact Or.inl ⟨rfl, rfl⟩
    · rw [hcut, hsome]
      split
      · exact Or.inr ⟨⟨first, (cut rest).head⟩ :: front, last, rfl, rfl⟩
      · exact Or.inr ⟨front, last, rfl, rfl⟩

section Earlier

variable {α : Type}

/-- The elements of a list, each with those that stand before it. -/
def withEarlier (xs : List α) : List (List α × α) := xs.zipIdx.map fun (x, i) => (xs.take i, x)

/-- An element at the end has the whole list before it. -/
theorem withEarlier_concat (xs : List α) (x : α) :
    withEarlier (xs ++ [x]) = withEarlier xs ++ [(xs, x)] := by
  have hfront : ∀ p ∈ xs.zipIdx, ((xs ++ [x]).take p.2, p.1) = (xs.take p.2, p.1) := by
    intro p hp
    have hlt : p.2 < xs.length := List.snd_lt_of_mem_zipIdx hp
    rw [List.take_append_of_le_length (Nat.le_of_lt hlt)]
  rw [withEarlier, List.zipIdx_append, List.map_append, List.map_congr_left hfront, withEarlier]
  simp

/-- Behind the first element, each element also has the first one before it. -/
theorem withEarlier_cons (x : α) (xs : List α) :
    withEarlier (x :: xs) =
      ([], x) :: (withEarlier xs).map fun place => (x :: place.1, place.2) := by
  induction xs using List.reverseRecOn with
  | nil => rfl
  | append_singleton xs y ih =>
    rw [← List.cons_append, withEarlier_concat, withEarlier_concat, ih, List.map_append]
    rfl

theorem map_snd_withEarlier (xs : List α) : (withEarlier xs).map Prod.snd = xs := by
  induction xs using List.reverseRecOn with
  | nil => rfl
  | append_singleton xs x ih => rw [withEarlier_concat, List.map_append, ih, List.map_singleton]

/-- A place in a list is a way to split it. -/
theorem mem_withEarlier_iff {xs earlier : List α} {x : α} :
    (earlier, x) ∈ withEarlier xs ↔ ∃ later, xs = earlier ++ x :: later := by
  constructor
  · intro h
    induction xs using List.reverseRecOn with
    | nil => exact absurd h List.not_mem_nil
    | append_singleton xs last ih =>
      rw [withEarlier_concat, List.mem_append, List.mem_singleton, Prod.mk.injEq] at h
      rcases h with h | ⟨rfl, rfl⟩
      · obtain ⟨later, rfl⟩ := ih h
        exact ⟨later ++ [last], by simp⟩
      · exact ⟨[], rfl⟩
  · rintro ⟨later, rfl⟩
    induction later using List.reverseRecOn with
    | nil =>
      rw [withEarlier_concat]
      exact List.mem_append_right _ List.mem_cons_self
    | append_singleton later last ih =>
      rw [← List.cons_append, ← List.append_assoc, withEarlier_concat]
      exact List.mem_append_left _ ih

theorem withEarlier_dropLast (xs : List α) :
    withEarlier xs.dropLast = (withEarlier xs).dropLast := by
  induction xs using List.reverseRecOn with
  | nil => rfl
  | append_singleton xs x _ => rw [withEarlier_concat, List.dropLast_concat, List.dropLast_concat]

end Earlier

/-- The text of the page: what stands in front of all markers or behind one that ends a
definition. -/
def Pieces.text (pieces : Pieces) : List Token :=
  pieces.head ++ pieces.segments.flatMap fun segment =>
    if segment.definition?.isSome then [] else segment.body

/-- The definition that the stream is inside of at its end. -/
def current? (segments : List Segment) : Option Definition :=
  segments.getLast?.bind Segment.definition?

/-- The definitions that a later marker has ended, in the order of the stream. -/
def ended (segments : List Segment) : List Definition :=
  segments.dropLast.filterMap Segment.definition?

/-- The names of definitions. -/
def names (definitions : List Definition) : List String := definitions.map (·.name)

/-- The definitions whose name is not that of an earlier one. -/
def firsts (definitions : List Definition) : List Definition :=
  (withEarlier definitions).filterMap fun (earlier, definition) =>
    if definition.name ∈ names earlier then none else some definition

/-- A marker warns if it begins a definition where another one is open. -/
def nestedWarning (earlier : List Segment) (segment : Segment) : List Warning :=
  if segment.definition?.isSome ∧ (current? earlier).isSome then [.nested] else []

/-- A marker warns if it ends a definition whose name an earlier one has had. -/
def repeatedWarning (earlier : List Segment) : List Warning :=
  match current? earlier with
  | none => []
  | some definition =>
    if definition.name ∈ names (ended earlier) then [.repeated definition.name] else []

/-- The warnings that the markers of a stream give, one marker after the other. -/
def warnings (segments : List Segment) : List Warning :=
  (withEarlier segments).flatMap fun (earlier, segment) =>
    nestedWarning earlier segment ++ repeatedWarning earlier

section Growth

variable (segments : List Segment) (segment : Segment)

theorem current?_concat : current? (segments ++ [segment]) = segment.definition? := by
  rw [current?, List.getLast?_concat, Option.bind_some]

/-- All but the definition that is still open have ended. -/
theorem filterMap_definition? :
    segments.filterMap Segment.definition? = ended segments ++ (current? segments).toList := by
  induction segments using List.reverseRecOn with
  | nil => rfl
  | append_singleton front last _ =>
    rw [current?_concat, ended, List.dropLast_concat, List.filterMap_append]
    cases h : last.definition? <;> simp [h]

/-- The next marker ends the definition that is open. -/
theorem ended_concat :
    ended (segments ++ [segment]) = ended segments ++ (current? segments).toList := by
  rw [ended, List.dropLast_concat, filterMap_definition?]

theorem warnings_concat :
    warnings (segments ++ [segment]) =
      warnings segments ++ (nestedWarning segments segment ++ repeatedWarning segments) := by
  rw [warnings, withEarlier_concat, List.flatMap_append, List.flatMap_singleton, warnings]

/-- A marker alone adds no text. -/
theorem text_concat_marker {token : Token} (h : isMarker token = true) (stream : List Token) :
    (cut (stream ++ [token])).text = (cut stream).text := by
  rw [cut_concat_marker h, Pieces.text, Pieces.text, List.flatMap_append, List.flatMap_singleton,
    ite_self, List.append_nil]

/-- A definition with one more token in its body. -/
def Definition.grow (definition : Definition) (token : Token) : Definition :=
  ⟨definition.name, definition.body ++ [token]⟩

theorem Segment.definition?_grow (segment : Segment) (token : Token) :
    Segment.definition? ⟨segment.marker, segment.body ++ [token]⟩ =
      segment.definition?.map (·.grow token) := by
  rw [definition?, definition?]
  split <;> rfl

/-- Any other token is text of the page unless a definition is open, which it is then put into. -/
theorem cut_concat_spec {token : Token} (h : isMarker token = false) (stream : List Token) :
    (cut (stream ++ [token])).text =
        (cut stream).text ++ (if (current? (cut stream).segments).isSome then [] else [token]) ∧
      current? (cut (stream ++ [token])).segments =
        (current? (cut stream).segments).map (·.grow token) ∧
      ended (cut (stream ++ [token])).segments = ended (cut stream).segments ∧
      warnings (cut (stream ++ [token])).segments = warnings (cut stream).segments := by
  rcases cut_concat h stream with ⟨hnone, hcut⟩ | ⟨front, last, hsome, hcut⟩
  · rw [hcut, hnone]
    refine ⟨?_, rfl, rfl, rfl⟩
    rw [Pieces.text, Pieces.text, hnone, List.flatMap_nil, List.append_nil, List.append_nil]
    rfl
  · have hopen : (last.definition?.map (·.grow token)).isSome = last.definition?.isSome :=
      Option.isSome_map
    rw [hcut, hsome, current?_concat, current?_concat, Segment.definition?_grow]
    refine ⟨?_, rfl, ?_, ?_⟩
    · simp only [Pieces.text, hsome, List.flatMap_append, List.flatMap_singleton,
        Segment.definition?_grow, hopen, List.append_assoc]
      split <;> simp
    · rw [ended_concat, ended_concat]
    · rw [warnings_concat, warnings_concat, nestedWarning, nestedWarning, Segment.definition?_grow,
        hopen]

theorem firsts_concat (definitions : List Definition) (definition : Definition) :
    firsts (definitions ++ [definition]) =
      if definition.name ∈ names definitions then firsts definitions
      else firsts definitions ++ [definition] := by
  rw [firsts, withEarlier_concat, List.filterMap_append, ← firsts]
  by_cases h : definition.name ∈ names definitions
  · simp [h]
  · simp [h]

/-- Each name that is defined has a first definition. -/
theorem mem_names_firsts {name : String} {definitions : List Definition} :
    name ∈ names (firsts definitions) ↔ name ∈ names definitions := by
  induction definitions using List.reverseRecOn with
  | nil => rfl
  | append_singleton definitions definition ih =>
    have hnames : names (definitions ++ [definition]) = names definitions ++ [definition.name] :=
      List.map_append
    rw [firsts_concat, hnames, List.mem_append, List.mem_singleton]
    by_cases h : definition.name ∈ names definitions
    · rw [if_pos h, ih]
      constructor
      · exact Or.inl
      · rintro (hmem | rfl)
        · exact hmem
        · exact h
    · have hfirsts : names (firsts definitions ++ [definition]) =
          names (firsts definitions) ++ [definition.name] := List.map_append
      rw [if_neg h, hfirsts, List.mem_append, List.mem_singleton, ih]

end Growth

end Folio.Footnote
