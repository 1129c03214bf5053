import Mathlib.Data.List.Forall2
import Folio.Token.Basic

/-!
# Nested streams

A stream is nested if its brackets close in the reverse order in which they open. Tokens open and
close brackets by kind, the kind `x_open` with the kind `x_close`. What may stand around an inner
stream is a parameter, the frame, so that a pass that adds tokens in front of a bracket and behind
it is described by the frames of its output. Whether a stream as the parser gives it is nested is
found out in one walk that keeps the open brackets on a stack.
-/

namespace Folio

namespace Token.Kind

/-- The kinds that passes take for brackets without a look at the nesting of the token. -/
def isBracket (kind : Kind) : Bool :=
  kind == .tableOpen || kind == .tableClose || kind == .footnoteOpen || kind == .footnoteClose

theorem isBracket_eq_false_iff {kind : Kind} :
    kind.isBracket = false ↔
      kind ≠ .tableOpen ∧ kind ≠ .tableClose ∧ kind ≠ .footnoteOpen ∧ kind ≠ .footnoteClose := by
  simp only [isBracket, Bool.or_eq_false_iff, beq_eq_false_iff_ne, and_assoc]

/-- The kind with a name has the name. -/
theorem name_ofName (name : String) : (ofName name).name = name := by
  have hnamed : ∀ pair ∈ named, pair.1.name = pair.2 := by decide +kernel
  rw [ofName]
  cases hfound : named.find? (·.2 == name) with
  | none => rfl
  | some pair =>
    have hname : pair.2 = name := by simpa using List.find?_some hfound
    rw [← hname]
    exact hnamed pair (List.mem_of_find?_eq_some hfound)

theorem ofName_injective : Function.Injective ofName := by
  intro name other h
  rw [← name_ofName name, h, name_ofName]

end Token.Kind

namespace Token

/-- Whether two tokens open and close one bracket. -/
structure Matches (opening closing : Token) : Prop where
  opens : opening.nesting = .opening
  closes : closing.nesting = .closing
  kinds : ∃ name, opening.kind = .ofName (name ++ "_open") ∧
    closing.kind = .ofName (name ++ "_close")

/-- Names that open a bracket do not close one. -/
theorem name_open_ne_close (name other : String) : name ++ "_open" ≠ other ++ "_close" := by
  intro h
  have hlast := congrArg (fun s : String => s.toList.getLast?) h
  simp [String.toList_append, List.getLast?_append] at hlast

namespace Matches

variable {opening closing : Token} (h : Matches opening closing)
include h

/-- One token of a bracket has the kind of a name exactly if the other one has. -/
theorem kind_iff (name : String) :
    opening.kind = .ofName (name ++ "_open") ↔ closing.kind = .ofName (name ++ "_close") := by
  obtain ⟨own, hopening, hclosing⟩ := h.kinds
  rw [hopening, hclosing, Kind.ofName_injective.eq_iff, Kind.ofName_injective.eq_iff,
    String.append_left_inj, String.append_left_inj]

theorem opening_kind_ne (name : String) : opening.kind ≠ .ofName (name ++ "_close") := by
  obtain ⟨own, hopening, -⟩ := h.kinds
  rw [hopening, Kind.ofName_injective.ne_iff]
  exact name_open_ne_close own name

theorem closing_kind_ne (name : String) : closing.kind ≠ .ofName (name ++ "_open") := by
  obtain ⟨own, -, hclosing⟩ := h.kinds
  rw [hclosing, Kind.ofName_injective.ne_iff]
  exact (name_open_ne_close name own).symm

theorem tableOpen_iff : opening.kind = .tableOpen ↔ closing.kind = .tableClose := h.kind_iff "table"

theorem footnoteOpen_iff : opening.kind = .footnoteOpen ↔ closing.kind = .footnoteClose :=
  h.kind_iff "footnote_reference"

theorem opening_ne_tableClose : opening.kind ≠ .tableClose := h.opening_kind_ne "table"

theorem opening_ne_footnoteClose : opening.kind ≠ .footnoteClose :=
  h.opening_kind_ne "footnote_reference"

theorem closing_ne_tableOpen : closing.kind ≠ .tableOpen := h.closing_kind_ne "table"

theorem closing_ne_footnoteOpen : closing.kind ≠ .footnoteOpen :=
  h.closing_kind_ne "footnote_reference"

end Matches

/-- What a pass leaves of a token that is to stay at its place among the brackets. -/
structure SameBracket (token other : Token) : Prop where
  kind : other.kind = token.kind
  nesting : other.nesting = token.nesting

theorem Matches.of_sameBracket {opening closing opening' closing' : Token}
    (h : Matches opening closing) (hopening : SameBracket opening opening')
    (hclosing : SameBracket closing closing') : Matches opening' closing' := by
  refine ⟨hopening.nesting.trans h.opens, hclosing.nesting.trans h.closes, ?_⟩
  rw [hopening.kind, hclosing.kind]
  exact h.kinds

end Token

/-- Streams in which brackets close in the reverse order in which they open. The frame tells which
tokens may stand in front of an inner stream and which behind it. -/
inductive Nested (Frame : List Token → List Token → List Token → Prop) : List Token → Prop
  | nil : Nested Frame []
  | alone {token : Token} {rest : List Token} (hnesting : token.nesting = .alone)
      (hkind : token.kind.isBracket = false) (hrest : Nested Frame rest) :
      Nested Frame (token :: rest)
  | framed {before inner after rest : List Token} (hframe : Frame before inner after)
      (hinner : Nested Frame inner) (hrest : Nested Frame rest) :
      Nested Frame (before ++ inner ++ after ++ rest)

/-- The frame of streams as the parser gives them: a token that opens a bracket and one that closes
it. -/
inductive Paired : List Token → List Token → List Token → Prop
  | tags {opening closing : Token} {inner : List Token} (h : opening.Matches closing) :
      Paired [opening] inner [closing]

namespace Nested

variable {Frame Frame' : List Token → List Token → List Token → Prop} {s t : List Token}

theorem append (hs : Nested Frame s) (ht : Nested Frame t) : Nested Frame (s ++ t) := by
  induction hs with
  | nil => exact ht
  | alone hnesting hkind _ ih => exact .alone hnesting hkind ih
  | framed hframe hinner _ _ ih =>
    rw [List.append_assoc]
    exact .framed hframe hinner ih

/-- Tokens that are no brackets may stand anywhere. -/
theorem of_alone (h : ∀ token ∈ s, token.nesting = .alone ∧ token.kind.isBracket = false) :
    Nested Frame s := by
  induction s with
  | nil => exact .nil
  | cons token rest ih =>
    rw [List.forall_mem_cons] at h
    exact .alone h.1.1 h.1.2 (ih h.2)

/-- A stream is nested with other frames if each of its frames can be made of them. -/
theorem imp (h : Nested Frame s)
    (hframe : ∀ {before inner after}, Frame before inner after → Nested Frame' inner →
      Nested Frame' (before ++ inner ++ after)) : Nested Frame' s := by
  induction h with
  | nil => exact .nil
  | alone hnesting hkind _ ih => exact .alone hnesting hkind ih
  | framed hhere _ _ ihinner ihrest => exact (hframe hhere ihinner).append ihrest

/-- Whatever is related to two streams one behind the other comes in two parts. -/
private theorem exists_append_of_forall₂ {R : Token → Token → Prop} {a b c : List Token}
    (h : List.Forall₂ R (a ++ b) c) :
    ∃ a' b', c = a' ++ b' ∧ List.Forall₂ R a a' ∧ List.Forall₂ R b b' := by
  have hflip := h.flip
  exact ⟨c.take a.length, c.drop a.length, (List.take_append_drop _ _).symm,
    (List.forall₂_take_append c a b hflip).flip, (List.forall₂_drop_append c a b hflip).flip⟩

/-- A stream stays nested if its tokens stay at their places among the brackets and its frames stay
frames. -/
theorem of_forall₂ {R : Token → Token → Prop} (h : Nested Frame s)
    (hbracket : ∀ {token other}, R token other → token.SameBracket other)
    (hframe : ∀ {before inner after before' inner' after'}, Frame before inner after →
      List.Forall₂ R before before' → List.Forall₂ R inner inner' →
      List.Forall₂ R after after' → Frame' before' inner' after')
    (hst : List.Forall₂ R s t) : Nested Frame' t := by
  induction h generalizing t with
  | nil =>
    rw [List.forall₂_nil_left_iff.mp hst]
    exact .nil
  | alone hnesting hkind _ ih =>
    obtain ⟨other, others, htoken, hrest, rfl⟩ := List.forall₂_cons_left_iff.mp hst
    have hsame := hbracket htoken
    exact .alone (hsame.nesting.trans hnesting) (by rw [hsame.kind, hkind]) (ih hrest)
  | framed hhere _ _ ihinner ihrest =>
    obtain ⟨_, rest', rfl, hfront, hrest⟩ := exists_append_of_forall₂ hst
    obtain ⟨_, after', rfl, hfront, hafter⟩ := exists_append_of_forall₂ hfront
    obtain ⟨before', inner', rfl, hbefore, hinner⟩ := exists_append_of_forall₂ hfront
    exact .framed (hframe hhere hbefore hinner hafter) (ihinner hinner) (ihrest hrest)

end Nested

/-- A bracket with a nested stream in it and one behind it. -/
theorem Nested.pair {opening closing : Token} {inner rest : List Token}
    (h : opening.Matches closing) (hinner : Nested Paired inner) (hrest : Nested Paired rest) :
    Nested Paired (opening :: (inner ++ closing :: rest)) := by
  have hframed : Nested Paired ([opening] ++ inner ++ [closing] ++ rest) :=
    .framed (.tags h) hinner hrest
  rwa [List.append_assoc, List.append_assoc] at hframed

namespace Token

/-- What stands in front of the end of the name in a kind that opens a bracket. -/
def Kind.stem (kind : Kind) : String :=
  .ofList (kind.name.toList.take (kind.name.toList.length - "_open".toList.length))

theorem Kind.stem_ofName (name : String) : (ofName (name ++ "_open")).stem = name := by
  rw [stem, name_ofName, String.toList_append, List.length_append, Nat.add_sub_cancel,
    List.take_left, String.ofList_toList]

theorem matches_iff {opening closing : Token} :
    opening.Matches closing ↔
      (opening.nesting = .opening ∧ closing.nesting = .closing) ∧
        opening.kind = .ofName (opening.kind.stem ++ "_open") ∧
        closing.kind = .ofName (opening.kind.stem ++ "_close") := by
  constructor
  · rintro ⟨hopens, hcloses, name, hopening, hclosing⟩
    have hstem : opening.kind.stem = name := by rw [hopening, Kind.stem_ofName]
    rw [hstem]
    exact ⟨⟨hopens, hcloses⟩, hopening, hclosing⟩
  · rintro ⟨⟨hopens, hcloses⟩, hopening, hclosing⟩
    exact ⟨hopens, hcloses, _, hopening, hclosing⟩

instance (opening closing : Token) : Decidable (opening.Matches closing) :=
  decidable_of_iff _ matches_iff.symm

end Token

/-- Whether the brackets of a stream close in the reverse order in which they open, given the tokens
that have opened brackets in front of it, the last one first. -/
def closesAll : List Token → List Token → Bool
  | opened, [] => opened.isEmpty
  | opened, token :: rest =>
    match token.nesting, opened with
    | .alone, opened => !token.kind.isBracket && closesAll opened rest
    | .opening, opened => closesAll (token :: opened) rest
    | .closing, opening :: opened => decide (opening.Matches token) && closesAll opened rest
    | .closing, [] => false

/-- The streams that close the brackets opened in front of them: behind a nested stream each, and
with a nested stream at the end. -/
inductive Closing : List Token → List Token → Prop
  | nil {stream : List Token} (h : Nested Paired stream) : Closing [] stream
  | cons {opening closing : Token} {opened inner rest : List Token} (h : opening.Matches closing)
      (hinner : Nested Paired inner) (hrest : Closing opened rest) :
      Closing (opening :: opened) (inner ++ closing :: rest)

namespace Closing

variable {token : Token} {opened rest stream : List Token}

theorem alone (h : Closing opened rest) (hnesting : token.nesting = .alone)
    (hkind : token.kind.isBracket = false) : Closing opened (token :: rest) := by
  cases h with
  | nil h => exact .nil (.alone hnesting hkind h)
  | cons hmatches hinner hrest => exact .cons hmatches (.alone hnesting hkind hinner) hrest

/-- A token whose bracket is closed behind it opens one of the brackets of the stream. -/
theorem opening (h : Closing (token :: opened) rest) : Closing opened (token :: rest) := by
  cases h with
  | cons hmatches hinner hrest =>
    cases hrest with
    | nil hrest => exact .nil (.pair hmatches hinner hrest)
    | cons hmatches' hinner' hrest =>
      have hclosing := Closing.cons hmatches' (.pair hmatches hinner hinner') hrest
      rwa [List.cons_append, List.append_assoc, List.cons_append] at hclosing

theorem of_closesAll (h : closesAll opened stream = true) : Closing opened stream := by
  induction opened, stream using closesAll.induct with
  | case1 opened =>
    rw [closesAll, List.isEmpty_iff] at h
    rw [h]
    exact .nil .nil
  | case2 opened token rest hnesting ih =>
    simp only [closesAll, hnesting, Bool.and_eq_true, Bool.not_eq_true'] at h
    exact (ih h.2).alone hnesting h.1
  | case3 opened token rest hnesting ih =>
    simp only [closesAll, hnesting] at h
    exact (ih h).opening
  | case4 token rest opening opened hnesting ih =>
    simp only [closesAll, hnesting, Bool.and_eq_true, decide_eq_true_eq] at h
    exact .cons h.1 .nil (ih h.2)
  | case5 token rest hnesting =>
    simp only [closesAll, hnesting, Bool.false_eq_true] at h

end Closing

/-- A nested stream closes its own brackets only. -/
theorem closesAll_append {stream : List Token} (h : Nested Paired stream)
    (opened rest : List Token) : closesAll opened (stream ++ rest) = closesAll opened rest := by
  induction h generalizing opened rest with
  | nil => rfl
  | alone hnesting hkind _ ih =>
    simp only [List.cons_append, closesAll, hnesting, hkind, ih, Bool.not_false, Bool.true_and]
  | framed hframe _ _ ihinner ihrest =>
    obtain ⟨hmatches⟩ := hframe
    simp only [List.append_assoc, List.cons_append, List.nil_append, closesAll, hmatches.opens,
      ihinner, hmatches.closes, hmatches, ihrest, decide_true, Bool.true_and]

/-- A stream is nested exactly if its brackets close in the reverse order in which they open. -/
theorem nested_iff_closesAll {stream : List Token} :
    Nested Paired stream ↔ closesAll [] stream = true := by
  constructor
  · intro h
    have hclosed := closesAll_append h [] []
    rwa [List.append_nil] at hclosed
  · intro h
    cases Closing.of_closesAll h with
    | nil hnested => exact hnested

instance (stream : List Token) : Decidable (Nested Paired stream) :=
  decidable_of_iff _ nested_iff_closesAll.symm

/-- Brackets that cross are not nested. -/
example :
    let opening (kind : Token.Kind) : Token := { kind, nesting := .opening }
    let closing (kind : Token.Kind) : Token := { kind, nesting := .closing }
    Nested Paired [opening .quoteOpen, opening .tableOpen, closing .tableClose,
        closing .quoteClose] ∧
      ¬ Nested Paired [opening .quoteOpen, opening .tableOpen, closing .quoteClose,
        closing .tableClose] := by
  decide +kernel

end Folio
