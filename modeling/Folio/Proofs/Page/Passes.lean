import Folio.Book.Page
import Folio.Proofs.Page.HeadingText
import Mathlib.Logic.Function.Conjugate

/-!
# The order of the passes

Joining the words of a fence changes fences only, and wrapping puts tokens beside tables that no
other pass acts on. So either may be moved in front of any other pass or behind it, also if the
stream is malformed and a heading is opened right in front of a table. What is left to order is that
destinations are resolved before headings get links to themselves.
-/

namespace Folio.Page

open Folio.Anchor Folio.Text

/-- The passes over the tokens of a page before its footnotes are collected. -/
inductive Pass where
  | fences
  | links
  | tables
  | headings
  deriving DecidableEq, Repr

/-- What a pass makes of a stream of tokens and of the counter in front of it. -/
def Pass.run (context : Context) : Pass → List Token × Counter → List Token × Counter
  | .fences, (tokens, counter) => (tokens.map joinFenceInfo, counter)
  | .links, (tokens, counter) => (tokens.map (Token.resolveLinks context), counter)
  | .tables, (tokens, counter) => (wrapTables tokens, counter)
  | .headings, (tokens, counter) => anchorHeadings context counter tokens

section Fences

theorem kind_joinFenceInfo (token : Token) : (joinFenceInfo token).kind = token.kind := by
  rw [joinFenceInfo]
  split <;> rfl

/-- Only fences have words joined. -/
theorem joinFenceInfo_of_ne {token : Token} (h : token.kind ≠ .fence) :
    joinFenceInfo token = token := if_neg h

/-- A fence has no destination. -/
theorem resolveLinks_of_fence (context : Context) {token : Token} (h : token.kind = .fence) :
    token.resolveLinks context = token := by
  rw [Token.resolveLinks_of_ne_inline context token (by rw [h]; nofun), Token.resolveOwn, h]

theorem joinFenceInfo_resolveLinks (context : Context) (token : Token) :
    joinFenceInfo (token.resolveLinks context) = (joinFenceInfo token).resolveLinks context := by
  by_cases h : token.kind = .fence
  · rw [resolveLinks_of_fence context h,
      resolveLinks_of_fence context ((kind_joinFenceInfo token).trans h)]
  · rw [joinFenceInfo_of_ne h, joinFenceInfo_of_ne]
    rwa [Token.kind_resolveLinks]

end Fences

section Tables

/-- A change that keeps kinds and the wrappers comes to the same in front of wrapping. -/
theorem wrapTables_map {f : Token → Token} (hkind : ∀ token, (f token).kind = token.kind)
    (hopen : f tableWrapperOpen = tableWrapperOpen)
    (hclose : f tableWrapperClose = tableWrapperClose) (tokens : List Token) :
    wrapTables (tokens.map f) = (wrapTables tokens).map f := by
  have hone : ∀ token, wrapTable (f token) = (wrapTable token).map f := by
    intro token
    rw [wrapTable, wrapTable, hkind]
    split
    · rw [List.map_cons, List.map_singleton, hopen]
    · rw [List.map_cons, List.map_singleton, hclose]
    · rw [List.map_singleton]
  rw [wrapTables, wrapTables, List.flatMap_map, List.map_flatMap]
  exact List.flatMap_congr fun token _ => hone token

/-- The tags around a table hold no destination. -/
theorem resolveLinks_wrapper (context : Context) :
    tableWrapperOpen.resolveLinks context = tableWrapperOpen ∧
      tableWrapperClose.resolveLinks context = tableWrapperClose := ⟨rfl, rfl⟩

end Tables

section Headings

variable (context : Context) (counter : Counter)

/-- A change that keeps kinds and leaves headings alone comes to the same in front of anchoring. -/
theorem anchorHeadings_map {f : Token → Token} (hkind : ∀ token, (f token).kind = token.kind)
    (hself : ∀ token, token.kind = .headingOpen ∨ token.kind = .inline → f token = token)
    (tokens : List Token) :
    anchorHeadings context counter (tokens.map f) =
      ((anchorHeadings context counter tokens).1.map f,
        (anchorHeadings context counter tokens).2) := by
  induction tokens using headings.induct generalizing counter with
  | case1 => rfl
  | case2 token hopen =>
    rw [List.map_singleton, hself token (Or.inl hopen), anchorHeadings, if_pos hopen]
    dsimp only
    rw [List.map_singleton, hself token (Or.inl hopen)]
  | case3 token hopen next rest hinline ih =>
    have hwith : ∀ id, f (withId token id) = withId token id := fun id => hself _ (Or.inl hopen)
    have hlink : ∀ id, f (withSelfLink next id) = withSelfLink next id := fun id =>
      hself _ (Or.inr hinline)
    rw [List.map_cons, List.map_cons, hself token (Or.inl hopen), hself next (Or.inr hinline),
      anchorHeadings_heading context counter hopen hinline,
      anchorHeadings_heading context counter hopen hinline]
    dsimp only
    rw [ih, List.map_cons, List.map_cons, hwith, hlink]
  | case4 token hopen next rest hnot ih =>
    have hother : (f next).kind ≠ .inline := by rwa [hkind]
    rw [List.map_cons, List.map_cons, hself token (Or.inl hopen),
      anchorHeadings_passed context counter hopen hother,
      anchorHeadings_passed context counter hopen hnot]
    dsimp only
    rw [ih, List.map_cons, List.map_cons, hself token (Or.inl hopen)]
  | case5 token rest hnot ih =>
    have hother : (f token).kind ≠ .headingOpen := by rwa [hkind]
    rw [List.map_cons, anchorHeadings_other context counter hother,
      anchorHeadings_other context counter hnot]
    dsimp only
    rw [ih, List.map_cons]

/-- What wrapping makes of a token that opens no heading is passed over. -/
private theorem anchorHeadings_wrapTable_append {token : Token} (h : token.kind ≠ .headingOpen)
    (rest : List Token) :
    anchorHeadings context counter (wrapTable token ++ rest) =
      (wrapTable token ++ (anchorHeadings context counter rest).1,
        (anchorHeadings context counter rest).2) := by
  have hwrapper : ∀ content, (Token.html content).kind ≠ .headingOpen := nofun
  unfold wrapTable
  split
  · simp only [List.cons_append, List.nil_append, tableWrapperOpen,
      anchorHeadings_other context counter (hwrapper _), anchorHeadings_other context counter h]
  · simp only [List.cons_append, List.nil_append, tableWrapperClose,
      anchorHeadings_other context counter (hwrapper _), anchorHeadings_other context counter h]
  · simp only [List.cons_append, List.nil_append, anchorHeadings_other context counter h]

/-- So is what it makes of a token that is not the text of the heading in front of it. -/
private theorem anchorHeadings_wrapTable_passed {token next : Token}
    (hopen : token.kind = .headingOpen) (hnot : next.kind ≠ .inline) (rest : List Token) :
    anchorHeadings context counter (token :: (wrapTable next ++ rest)) =
      (token :: (wrapTable next ++ (anchorHeadings context counter rest).1),
        (anchorHeadings context counter rest).2) := by
  have hwrapper : ∀ content, (Token.html content).kind ≠ .headingOpen := nofun
  unfold wrapTable
  split
  · -- The wrapper is passed over in place of the table, which is then met on its own.
    rename_i htable
    have hother : next.kind ≠ .headingOpen := fun h => nomatch htable.symm.trans h
    have hpassed : tableWrapperOpen.kind ≠ .inline := nofun
    simp only [List.cons_append, List.nil_append,
      anchorHeadings_passed context counter hopen hpassed,
      anchorHeadings_other context counter hother]
  · simp only [List.cons_append, List.nil_append,
      anchorHeadings_passed context counter hopen hnot, tableWrapperClose,
      anchorHeadings_other context counter (hwrapper _)]
  · simp only [List.cons_append, List.nil_append,
      anchorHeadings_passed context counter hopen hnot]

/-- Headings are anchored alike in front of wrapping and behind it. -/
theorem anchorHeadings_wrapTables (tokens : List Token) :
    anchorHeadings context counter (wrapTables tokens) =
      (wrapTables (anchorHeadings context counter tokens).1,
        (anchorHeadings context counter tokens).2) := by
  have hcons : ∀ token rest, wrapTables (token :: rest) = wrapTable token ++ wrapTables rest :=
    fun _ _ => List.flatMap_cons
  have hsingle : ∀ {token : Token}, token.kind = .headingOpen ∨ token.kind = .inline →
      wrapTable token = [token] := by
    rintro token (h | h) <;> exact wrapTable_of_ne (by rw [h]; decide) (by rw [h]; decide)
  induction tokens using headings.induct generalizing counter with
  | case1 => rfl
  | case2 token hopen =>
    have hwrapped : wrapTables [token] = [token] := by rw [hcons, hsingle (Or.inl hopen)]; rfl
    rw [hwrapped, anchorHeadings, if_pos hopen, hwrapped]
  | case3 token hopen next rest hinline ih =>
    have hwith : ∀ id, wrapTable (withId token id) = [withId token id] := fun id =>
      hsingle (Or.inl hopen)
    have hlink : ∀ id, wrapTable (withSelfLink next id) = [withSelfLink next id] := fun id =>
      hsingle (Or.inr hinline)
    rw [hcons, hcons, hsingle (Or.inl hopen), hsingle (Or.inr hinline), List.singleton_append,
      List.singleton_append, anchorHeadings_heading context counter hopen hinline,
      anchorHeadings_heading context counter hopen hinline]
    dsimp only
    rw [ih, hcons, hcons, hwith, hlink, List.singleton_append, List.singleton_append]
  | case4 token hopen next rest hnot ih =>
    rw [hcons, hcons, hsingle (Or.inl hopen), List.singleton_append,
      anchorHeadings_wrapTable_passed context counter hopen hnot,
      anchorHeadings_passed context counter hopen hnot, ih]
    dsimp only
    rw [hcons, hcons, hsingle (Or.inl hopen), List.singleton_append]
  | case5 token rest hnot ih =>
    rw [hcons, anchorHeadings_wrapTable_append context counter hnot,
      anchorHeadings_other context counter hnot, ih]
    dsimp only
    rw [hcons]

end Headings

section Order

variable (context : Context)

theorem fences_commute (pass : Pass) :
    Function.Commute (Pass.fences.run context) (pass.run context) := by
  rintro ⟨tokens, counter⟩
  cases pass with
  | fences => rfl
  | links =>
    simp only [Pass.run, List.map_map]
    congr 2
    exact funext (joinFenceInfo_resolveLinks context)
  | tables =>
    simp only [Pass.run]
    rw [wrapTables_map kind_joinFenceInfo rfl rfl]
  | headings =>
    simp only [Pass.run]
    rw [anchorHeadings_map context counter kind_joinFenceInfo]
    rintro token (h | h) <;> exact joinFenceInfo_of_ne (by rw [h]; decide)

theorem tables_commute (pass : Pass) :
    Function.Commute (Pass.tables.run context) (pass.run context) := by
  rintro ⟨tokens, counter⟩
  cases pass with
  | fences => exact (fences_commute context .tables (tokens, counter)).symm
  | links =>
    obtain ⟨hopen, hclose⟩ := resolveLinks_wrapper context
    simp only [Pass.run]
    rw [wrapTables_map (Token.kind_resolveLinks context) hopen hclose]
  | tables => rfl
  | headings =>
    simp only [Pass.run]
    rw [anchorHeadings_wrapTables]

/-- Whether a pass may stand anywhere among the others. -/
def Pass.isFree : Pass → Bool
  | .fences | .tables => true
  | .links | .headings => false

/-- A free pass may be moved past any other one. -/
theorem Pass.commute_of_isFree {pass : Pass} (h : pass.isFree = true) (other : Pass) :
    Function.Commute (pass.run context) (other.run context) := by
  cases pass with
  | fences => exact fences_commute context other
  | tables => exact tables_commute context other
  | links => exact absurd h Bool.false_ne_true
  | headings => exact absurd h Bool.false_ne_true

/-- Run passes one after the other. -/
def runAll (passes : List Pass) (page : List Token × Counter) : List Token × Counter :=
  passes.foldl (fun page pass => pass.run context page) page

/-- Free passes may be run in front of another one or behind it. -/
theorem run_runAll {passes : List Pass} (h : ∀ pass ∈ passes, pass.isFree = true) (other : Pass)
    (page : List Token × Counter) :
    other.run context (runAll context passes page) =
      runAll context passes (other.run context page) := by
  induction passes generalizing page with
  | nil => rfl
  | cons pass passes ih =>
    rw [List.forall_mem_cons] at h
    rw [runAll, List.foldl_cons, ← runAll, ih h.2, ← Pass.commute_of_isFree context h.1 other page]
    rfl

/-- So the free passes may be run first, and the others behind them in their order. -/
theorem runAll_eq_filter (passes : List Pass) (page : List Token × Counter) :
    runAll context passes page =
      runAll context (passes.filter (!·.isFree))
        (runAll context (passes.filter (·.isFree)) page) := by
  induction passes generalizing page with
  | nil => rfl
  | cons pass passes ih =>
    have hcons : runAll context (pass :: passes) page =
        runAll context passes (pass.run context page) := rfl
    rw [hcons, ih]
    cases hfree : pass.isFree with
    | true => simp only [List.filter_cons, hfree]; rfl
    | false =>
      have hall : ∀ other ∈ passes.filter (·.isFree), other.isFree = true := fun other hother =>
        (List.mem_filter.mp hother).2
      rw [← run_runAll context hall pass page]
      simp only [List.filter_cons, hfree]
      rfl

/-- Free passes among themselves may be run in any order. -/
theorem runAll_perm {passes others : List Pass} (hperm : passes.Perm others)
    (hrest : passes.filter (!·.isFree) = others.filter (!·.isFree)) :
    runAll context passes = runAll context others := by
  funext page
  have hfree : runAll context (passes.filter (·.isFree)) page =
      runAll context (others.filter (·.isFree)) page := by
    apply (hperm.filter _).foldl_eq'
    intro first hfirst second _ page
    exact (Pass.commute_of_isFree context (List.mem_filter.mp hfirst).2 second page).symm
  rw [runAll_eq_filter context passes, runAll_eq_filter context others, hfree, hrest]

/-- Joining the words of fences and wrapping tables commute with each other and with every other
pass, on any stream and with any counter. So a page comes out the same whatever order its passes are
run in, as long as destinations are resolved and headings anchored in the same order. -/
theorem passes_commute :
    (∀ pass : Pass, Function.Commute (Pass.fences.run context) (pass.run context)) ∧
      (∀ pass : Pass, Function.Commute (Pass.tables.run context) (pass.run context)) ∧
      (∀ passes others : List Pass, passes.Perm others →
        passes.filter (!·.isFree) = others.filter (!·.isFree) →
        runAll context passes = runAll context others) ∧
      ∀ (counter : Counter) (tokens : List Token),
        Book.prepare context (some counter) tokens =
          (runAll context [.fences, .links, .tables, .headings] (tokens, counter)).map id some :=
  ⟨fences_commute context, tables_commute context, fun _ _ => runAll_perm context,
    fun _ _ => rfl⟩

/-- A heading that a table follows in place of its text: the look ahead passes over the table or
over the tag in front of it. -/
theorem passes_commute_malformed :
    let tokens : List Token :=
      [{ kind := .headingOpen }, { kind := .tableOpen }, { kind := .headingOpen },
        { kind := .inline, children := some [{ kind := .text, content := "A" }] }]
    let late := runAll ⟨none, []⟩ [.links, .headings, .tables, .fences] (tokens, {})
    let early := runAll ⟨none, []⟩ [.fences, .tables, .links, .headings] (tokens, {})
    late = early ∧ late.1.map (·.kind) =
        [.headingOpen, .htmlBlock, .tableOpen, .headingOpen, .inline] ∧
      late.2.count "a".toList = 1 := by
  intro tokens late early
  have hsame := (passes_commute ⟨none, []⟩).2.2.1 [.links, .headings, .tables, .fences]
    [.fences, .tables, .links, .headings] (by decide) (by decide)
  exact ⟨congrFun hsame (tokens, {}), by decide, by decide⟩

/-- The link from a heading to itself would be resolved again. -/
example :
    let context : Context := ⟨some "a.md".toList, []⟩
    let text : Token := { kind := .text, content := "B" }
    let tokens : List Token :=
      [{ kind := .headingOpen }, { kind := .inline, children := some [text] }]
    let texts (passes : List Pass) : List String :=
      ((runAll context passes (tokens, {})).1.flatMap (·.childList)).map (·.content)
    texts [.links, .headings] = ["<a class=\"header\" href=\"#a-b\">", "B", "</a>"] ∧
      texts [.headings, .links] = ["<a class=\"header\" href=\"#a-a-b\">", "B", "</a>"] := by
  decide

end Order

end Folio.Page
