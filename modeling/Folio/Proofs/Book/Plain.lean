import Folio.Proofs.Book.Nesting
import Folio.Proofs.Footnote.Placement
import Mathlib.Data.Bool.AllAny

/-!
# Plain pages

A page without destinations, tables, footnotes and fences of several words is rendered as it is
parsed. Each pass leaves such a page alone, those over inline tokens at any depth.
-/

namespace Folio.Page

open Folio.Text

/-- A single word behind the mark of a fence is kept. -/
theorem joinInfo_eq_self {info : List Char} (h : ∀ c ∈ info, isBlank c = false) :
    joinInfo info = info := by
  have hfront : info.dropWhile isBlank = info := by
    cases info with
    | nil => rfl
    | cons c rest =>
      rw [List.dropWhile_cons_of_neg]
      rw [h c List.mem_cons_self]
      exact Bool.false_ne_true
  have hstrip : strip info = info := by
    rw [strip, hfront]
    apply dropEndWhile_eq_self
    intro c hc
    exact h c (List.mem_of_getLast? hc)
  have hmark : (info.map fun c => if c = ' ' || c = '\t' then ',' else c) = info := by
    apply map_eq_self
    intro c hc
    have hnot : ¬ (decide (c = ' ') || decide (c = '\t')) = true := by
      intro hspace
      rcases Bool.or_eq_true_iff.mp hspace with hspace | hspace
      · rw [of_decide_eq_true hspace] at hc
        exact absurd (h ' ' hc) (by decide)
      · rw [of_decide_eq_true hspace] at hc
        exact absurd (h '\t' hc) (by decide)
    exact if_neg hnot
  rw [joinInfo, hstrip, hmark, List.filter_eq_self]
  intro c hc
  rw [h c hc]
  rfl

end Folio.Page

namespace Folio.Token

open Folio.Footnote Folio.Page Folio.Text

/-- The kinds of tokens that some pass over a page acts on. -/
def actedOn : List Kind :=
  [.linkOpen, .image, .htmlBlock, .htmlInline, .tableOpen, .tableClose, .footnoteOpen,
    .footnoteClose, .footnoteReference]

/-- A token that holds nothing for a pass to act on: no destination, no table, no footnote and no
fence with several words behind its mark. The same goes for its children, if it is an inline
token. -/
inductive IsPlain : Token → Prop
  | mk {token : Token} (hkind : token.kind ∉ actedOn)
      (hinfo : token.kind = .fence → ∀ c ∈ token.info.toList, isBlank c = false)
      (hchildren : token.kind = .inline → ∀ child ∈ token.childList, child.IsPlain) :
      token.IsPlain

/-- A token without a destination of its own is left alone. -/
theorem resolveOwn_eq_self {token : Token} (h : token.kind ∉ actedOn) (context : Context) :
    token.resolveOwn context = token := by
  have hne : ∀ kind ∈ actedOn, token.kind ≠ kind := by
    rintro kind hkind rfl
    exact h hkind
  unfold resolveOwn
  split
  · exact absurd ‹_› (hne .linkOpen (by decide))
  · exact absurd ‹_› (hne .image (by decide))
  · exact absurd ‹_› (hne .htmlBlock (by decide))
  · exact absurd ‹_› (hne .htmlInline (by decide))
  · rfl

namespace IsPlain

/-- A plain token has no destination to resolve, and nor have its children at any depth. -/
theorem resolveLinks_eq {token : Token} (h : token.IsPlain) (context : Context) :
    token.resolveLinks context = token := by
  induction h with
  | @mk token hkind _ _ ih =>
    by_cases hinline : token.kind = .inline
    · rw [resolveLinks_of_inline context token hinline]
      cases hchildren : token.children with
      | none =>
        rw [Option.map_none, ← hchildren]
        cases token
        rfl
      | some children =>
        have hlist : token.childList = children := by rw [childList, hchildren, Option.getD_some]
        have hkept : children.map (resolveLinks context) = children :=
          map_eq_self fun child hchild => ih hinline child (hlist ▸ hchild)
        rw [Option.map_some, hkept, ← hchildren]
        cases token
        rfl
    · rw [resolveLinks_of_ne_inline context token hinline]
      exact resolveOwn_eq_self hkind context

variable {token : Token} (h : token.IsPlain)
include h

theorem kind_ne {kind : Kind} (hkind : kind ∈ actedOn) : token.kind ≠ kind := by
  obtain ⟨hnot, -, -⟩ := h
  rintro rfl
  exact hnot hkind

theorem joinFenceInfo_eq : joinFenceInfo token = token := by
  obtain ⟨-, hinfo, -⟩ := h
  by_cases hfence : token.kind = .fence
  · rw [joinFenceInfo, if_pos hfence, joinInfo_eq_self (hinfo hfence), String.ofList_toList]
    cases token
    rfl
  · rw [joinFenceInfo, if_neg hfence]

theorem wrapTable_eq : wrapTable token = [token] :=
  wrapTable_of_ne (h.kind_ne (by decide)) (h.kind_ne (by decide))

theorem isMarker_eq : isMarker token = false := by
  have hopen : token.kind ≠ .footnoteOpen := h.kind_ne (by decide)
  have hclose : token.kind ≠ .footnoteClose := h.kind_ne (by decide)
  simp [isMarker, hopen, hclose]

/-- Nothing in a plain token refers to a footnote. -/
theorem tokenNames_eq : tokenNames token = [] := by
  obtain ⟨-, -, hchildren⟩ := h
  rw [tokenNames]
  split
  · rename_i hinline
    rw [childNames, List.map_eq_nil_iff, List.filter_eq_nil_iff]
    intro child hchild
    have hne : child.kind ≠ .footnoteReference :=
      (hchildren hinline child hchild).kind_ne (by decide)
    simp [hne]
  · rfl

end IsPlain

end Folio.Token

namespace Folio.Book

open Folio.Footnote Folio.Page Folio.Text

section Plain

variable {tokens : List Token} (h : ∀ token ∈ tokens, token.IsPlain)
include h

/-- Without a counter, the passes in front of collecting footnotes leave plain tokens alone. -/
theorem prepare_plain (context : Context) : prepare context none tokens = (tokens, none) := by
  have hjoined : tokens.map joinFenceInfo = tokens :=
    map_eq_self fun token htoken => (h token htoken).joinFenceInfo_eq
  have hresolved : tokens.map (Token.resolveLinks context) = tokens :=
    map_eq_self fun token htoken => (h token htoken).resolveLinks_eq context
  have hwrapped : wrapTables tokens = tokens := by
    have hsingle : ∀ token ∈ tokens, wrapTable token = [token] := fun token htoken =>
      (h token htoken).wrapTable_eq
    rw [wrapTables, List.flatMap_congr hsingle, List.flatMap_singleton']
  rw [prepare, hjoined, hresolved, hwrapped]

/-- Collecting footnotes from plain tokens hands them on and finds nothing. -/
theorem collect_plain : Collector.collect {} tokens = ({}, tokens) := by
  have hmarkers : ∀ token ∈ tokens, isMarker token = false := fun token htoken =>
    (h token htoken).isMarker_eq
  have hnames : referenceNames tokens = [] :=
    List.flatMap_eq_nil_iff.mpr fun token htoken => (h token htoken).tokenNames_eq
  have hcollect := collect_outside hmarkers [] [] []
  rwa [linkAll_of_no_names [] hnames] at hcollect

end Plain

/-- A page of plain tokens is rendered as it is parsed, in every context and with every redirect
table: no pass changes its tokens, no footnote is listed, and there is nothing to warn about. -/
theorem renderIn_plain (renderer : Renderer) (context : Context) {text : String}
    (h : ∀ token ∈ renderer.parse text, token.IsPlain) :
    let tokens := renderer.parse text
    let collected := Collector.collect {} (prepare context none tokens).1
    collected = ({}, tokens) ∧
      collected.1.appendix (.ofList context.pageId) renderer.serialize = "" ∧
      renderer.renderIn context none text =
        { html := renderer.serialize tokens, counter := none, warnings := [] } := by
  intro tokens collected
  have hprepared : prepare context none tokens = (tokens, none) := prepare_plain h context
  have hcollected : collected = ({}, tokens) := by
    simp only [collected, hprepared]
    exact collect_plain h
  have hlisted : ({} : Collector).listed = [] := by simp [Collector.listed]
  have happendix : ({} : Collector).appendix (.ofList context.pageId) renderer.serialize = "" := by
    simp only [Collector.appendix, hlisted]
  refine ⟨hcollected, by rw [hcollected, happendix], ?_⟩
  have hbody : Collector.collect {} (renderer.parse text) = ({}, tokens) := collect_plain h
  simp only [Renderer.renderIn, hprepared, tokens, hbody, happendix, String.append_empty]
  rfl

/-- A chapter with text inside of text and a fence with one word behind its mark. -/
theorem renderIn_plain_nested :
    let inner : Token := { kind := .inline, children := some [{ kind := .text, content := "<b>" }] }
    let tokens : List Token := [
      { kind := .paragraphOpen, tag := "p", nesting := .opening, block := true },
      { kind := .inline, children := some [{ kind := .codeInline, content := "a.md" }, inner] },
      { kind := .paragraphClose, tag := "p", nesting := .closing, block := true },
      { kind := .fence, info := "rust,ignore", content := "[a](b.md)\n" }]
    let renderer : Renderer :=
      ⟨fun _ => tokens, Token.serialize, [⟨"/b.html".toList, "c.html".toList⟩]⟩
    let context : Context := ⟨some "guide/start.md".toList, renderer.redirects⟩
    (∀ token ∈ tokens, token.IsPlain) ∧
      renderer.renderIn context none "" =
        { html := Token.serialize tokens, counter := none, warnings := [] } := by
  intro inner tokens renderer context
  have hinner : inner.IsPlain := by
    refine .mk (by decide) nofun fun _ => ?_
    exact List.forall_mem_singleton.mpr (.mk (by decide) nofun nofun)
  have hinfo : ∀ c ∈ "rust,ignore".toList, isBlank c = false :=
    List.all_iff_forall_prop.mp (by decide)
  have htokens : ∀ token ∈ tokens, token.IsPlain := by
    simp only [tokens, List.forall_mem_cons]
    refine ⟨.mk (by decide) nofun nofun, .mk (by decide) nofun fun _ => ?_,
      .mk (by decide) nofun nofun, .mk (by decide) (fun _ => hinfo) nofun, nofun⟩
    exact List.forall_mem_cons.mpr
      ⟨.mk (by decide) nofun nofun, List.forall_mem_singleton.mpr hinner⟩
  exact ⟨htokens, (renderIn_plain renderer context htokens).2.2⟩

end Folio.Book
