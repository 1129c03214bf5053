import Folio.Page.Heading
import Folio.Proofs.Anchor.Counter
import Folio.Proofs.Token.Attributes

/-!
# Headings and their ids

Anchoring gives every heading of a stream an id and leaves the order of the headings as it is. The
id of a heading whose attributes give none is its slug, numbered by the headings that the counter
has seen with the same slug.
-/

namespace Folio.Page

open Folio.Anchor Folio.Text

/-- A heading: the token that opens it and the inline token with its text. -/
structure Heading where
  opening : Token
  inline : Token
  opens : opening.kind = .headingOpen
  holdsText : inline.kind = .inline

/-- The headings of a stream. A token that opens a heading counts if an inline token follows it. -/
def headings : List Token → List Heading
  | [] => []
  | token :: rest =>
    if hopen : token.kind = .headingOpen then
      match rest with
      | [] => []
      | next :: rest =>
        if hinline : next.kind = .inline then ⟨token, next, hopen, hinline⟩ :: headings rest
        else headings rest
    else headings rest

section Stream

variable {token next : Token}

theorem headings_heading (hopen : token.kind = .headingOpen) (hinline : next.kind = .inline)
    (rest : List Token) :
    headings (token :: next :: rest) = ⟨token, next, hopen, hinline⟩ :: headings rest := by
  rw [headings, dif_pos hopen]
  simp only [dif_pos hinline]

theorem headings_passed (hopen : token.kind = .headingOpen) (hnot : next.kind ≠ .inline)
    (rest : List Token) : headings (token :: next :: rest) = headings rest := by
  rw [headings, dif_pos hopen]
  simp only [dif_neg hnot]

theorem headings_other (hnot : token.kind ≠ .headingOpen) (rest : List Token) :
    headings (token :: rest) = headings rest := by
  rw [headings.eq_def]
  simp only [dif_neg hnot]

end Stream

namespace Heading

/-- The id that the attributes of a heading give. -/
def id? (heading : Heading) : Option String := (heading.opening.attrs.get? "id").map (·.toText)

/-- The slug that a heading asks the counter for, unless its attributes give an id. -/
def slug? (heading : Heading) : Option (List Char) :=
  if heading.opening.attrs.get? "id" = none then some (slug (headingText heading.inline)) else none

end Heading

/-- The slug that each heading asks the counter for, none for one with an id of its own. -/
def slugs (hs : List Heading) : List (Option (List Char)) := hs.map Heading.slug?

/-- A name as ids in a context spell it: on the print page behind the page id. -/
def Context.spell (context : Context) (name : List Char) : String :=
  .ofList (if context.pageId = [] then name else context.pageId ++ '-' :: name)

/-- The ids of headings, given one after the other, and the counter behind them. -/
def anchorIds (context : Context) (counter : Counter) : List Heading → List String × Counter
  | [] => ([], counter)
  | heading :: rest =>
    let first := anchorId context counter heading.opening heading.inline
    let others := anchorIds context first.2 rest
    (first.1 :: others.1, others.2)

section Stream

variable (context : Context) (counter : Counter) {token next : Token}

theorem anchorHeadings_heading (hopen : token.kind = .headingOpen) (hinline : next.kind = .inline)
    (rest : List Token) :
    anchorHeadings context counter (token :: next :: rest) =
      let anchored := anchorId context counter token next
      let others := anchorHeadings context anchored.2 rest
      (withId token anchored.1 :: withSelfLink next anchored.1 :: others.1, others.2) := by
  rw [anchorHeadings, if_pos hopen]
  simp only [if_pos hinline]

theorem anchorHeadings_passed (hopen : token.kind = .headingOpen) (hnot : next.kind ≠ .inline)
    (rest : List Token) :
    anchorHeadings context counter (token :: next :: rest) =
      let others := anchorHeadings context counter rest
      (token :: next :: others.1, others.2) := by
  rw [anchorHeadings, if_pos hopen]
  simp only [if_neg hnot]

theorem anchorHeadings_other (hnot : token.kind ≠ .headingOpen) (rest : List Token) :
    anchorHeadings context counter (token :: rest) =
      let others := anchorHeadings context counter rest
      (token :: others.1, others.2) := by
  rw [anchorHeadings.eq_def]
  simp only [if_neg hnot]

/-- An anchored heading carries its id. -/
theorem id?_anchored (hopen : token.kind = .headingOpen) (hinline : next.kind = .inline)
    (id : String) :
    Heading.id? ⟨withId token id, withSelfLink next id, hopen, hinline⟩ = some id :=
  congrArg (Option.map Token.Value.toText) (Token.Attributes.get?_set token.attrs "id" (.text id))

/-- Anchoring a stream gives its headings their ids and keeps their order. -/
theorem headings_anchorHeadings (tokens : List Token) :
    (headings (anchorHeadings context counter tokens).1).map Heading.id? =
        (anchorIds context counter (headings tokens)).1.map some ∧
      (anchorHeadings context counter tokens).2 =
        (anchorIds context counter (headings tokens)).2 := by
  induction tokens using headings.induct generalizing counter with
  | case1 => exact ⟨rfl, rfl⟩
  | case2 token hopen => simp [anchorHeadings, headings, anchorIds, hopen]
  | case3 token hopen next rest hinline ih =>
    have hwith : ∀ id, (withId token id).kind = .headingOpen := fun _ => hopen
    have hlink : ∀ id, (withSelfLink next id).kind = .inline := fun _ => hinline
    rw [anchorHeadings_heading context counter hopen hinline, headings_heading hopen hinline]
    simp [headings_heading (hwith _) (hlink _), id?_anchored hopen hinline, anchorIds, ih]
  | case4 token hopen next rest hnot ih =>
    rw [anchorHeadings_passed context counter hopen hnot, headings_passed hopen hnot]
    simp [headings_passed hopen hnot, ih]
  | case5 token rest hnot ih =>
    rw [anchorHeadings_other context counter hnot, headings_other hnot]
    simp [headings_other hnot, ih]

end Stream

section Ids

variable {context : Context}

/-- A slug that a heading asks for holds no number sign. -/
theorem Heading.mark_not_mem_slug? {heading : Heading} {base : List Char}
    (h : heading.slug? = some base) : '#' ∉ base := by
  rw [Heading.slug?] at h
  split at h
  · rw [← Option.some.inj h]
    exact mark_not_mem_slug _
  · exact absurd h (Option.some_ne_none _).symm

/-- A heading without an id of its own gets the next id of its slug. -/
theorem anchorId_of_slug? {heading : Heading} {base : List Char} (h : heading.slug? = some base)
    (counter : Counter) :
    (anchorId context counter heading.opening heading.inline).1 =
      context.spell (numbered base (counter.count base)) := by
  rw [Heading.slug?] at h
  split at h
  · rename_i hnone
    rw [← Option.some.inj h, anchorId, hnone]
    rfl
  · exact absurd h (Option.some_ne_none _).symm

/-- The counter behind a heading has seen its slug once more. -/
theorem count_anchorId (heading : Heading) (counter : Counter) (key : List Char) :
    (anchorId context counter heading.opening heading.inline).2.count key =
      counter.count key + [heading.slug?].count (some key) := by
  rw [Heading.slug?, anchorId]
  cases hid : heading.opening.attrs.get? "id" with
  | none =>
    have hcount : [some (slug (headingText heading.inline))].count (some key) =
        [slug (headingText heading.inline)].count key := by
      rw [List.count_singleton, List.count_singleton, Option.some_beq_some]
    rw [if_pos rfl, hcount]
    exact count_issue counter (headingText heading.inline) key
  | some given =>
    have hcount : [(none : Option (List Char))].count (some key) = 0 := rfl
    rw [if_neg (Option.some_ne_none given), hcount, Int.ofNat_zero, Int.add_zero]

/-- A heading that asks for a slug gets it with the number of those seen before, and the counter has
seen one more then. -/
theorem anchorId_of_seen (context : Context) {heading : Heading} {base : List Char}
    (h : heading.slug? = some base) {counter : Counter} {seen : List (List Char)}
    (hseen : ∀ key, counter.count key = seen.count key) :
    (anchorId context counter heading.opening heading.inline).1 =
        context.spell (numbered base (seen.count base)) ∧
      ∀ key, (anchorId context counter heading.opening heading.inline).2.count key =
        (base :: seen).count key := by
  refine ⟨by rw [anchorId_of_slug? h, hseen], fun key => ?_⟩
  rw [count_anchorId, hseen, h, List.count_singleton, List.count_cons]
  simp

/-- The counter behind headings has seen each slug as often again as they ask for it. -/
theorem count_anchorIds (hs : List Heading) (counter : Counter) (key : List Char) :
    (anchorIds context counter hs).2.count key =
      counter.count key + (slugs hs).count (some key) := by
  induction hs generalizing counter with
  | nil => simp [anchorIds, slugs]
  | cons heading rest ih =>
    have hslugs : slugs (heading :: rest) = [heading.slug?] ++ slugs rest := rfl
    rw [anchorIds, ih, count_anchorId, hslugs, List.count_append]
    push_cast
    omega

/-- The id of a heading depends on the headings before it through the counter only. -/
theorem getElem?_anchorIds {hs : List Heading} {j : Nat} {heading : Heading}
    (h : hs[j]? = some heading) (counter : Counter) :
    (anchorIds context counter hs).1[j]? =
      some (anchorId context (anchorIds context counter (hs.take j)).2 heading.opening
        heading.inline).1 := by
  induction hs generalizing counter j with
  | nil => exact absurd h (by simp)
  | cons first rest ih =>
    cases j with
    | zero =>
      rw [List.getElem?_cons_zero] at h
      rw [Option.some.inj h]
      rfl
    | succ j =>
      rw [List.getElem?_cons_succ] at h
      exact ih h _

/-- The id of a heading is its slug, numbered by the headings that the counter has seen with it:
those before the stream and those before the heading. -/
theorem getElem?_anchorIds_of_slug? {hs : List Heading} {j : Nat} {heading : Heading}
    {base : List Char} (h : hs[j]? = some heading) (hbase : heading.slug? = some base)
    (counter : Counter) :
    (anchorIds context counter hs).1[j]? =
      some (context.spell
        (numbered base (counter.count base + (slugs (hs.take j)).count (some base)))) := by
  rw [getElem?_anchorIds h, anchorId_of_slug? hbase, count_anchorIds]

end Ids

end Folio.Page
