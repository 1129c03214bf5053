import Folio.Proofs.Footnote.Nesting

/-!
# Pages are nested

A nested stream goes nested through all passes over a page, whatever the context and the counter
are: the text of the page, the bodies of its footnotes and the items of its footnote list have
brackets that close in the reverse order in which they open, also if the tags that passes add count
as brackets.
-/

namespace Folio.Book

open Folio.Anchor Folio.Footnote Folio.Page

variable {tokens : List Token}

/-- A pass that rewrites tokens one by one, each at its place among the brackets, leaves a stream
nested. -/
theorem nested_map {f : Token → Token} (hf : ∀ token : Token, token.SameBracket (f token))
    (h : Nested (Apart Paired) tokens) : Nested (Apart Paired) (tokens.map f) := by
  refine nested_of_sameBracket h ?_
  rw [List.forall₂_map_right_iff, List.forall₂_same]
  exact fun token _ => hf token

/-- In front of collecting footnotes a stream is nested, with its tables wrapped. -/
theorem nested_prepare (hnested : Nested Paired tokens) (hapart : HasDefinitionsApart tokens)
    (context : Context) (counter : Option Counter) :
    Nested (Apart Wrapped) (prepare context counter tokens).1 := by
  have hjoined := nested_map sameBracket_joinFenceInfo (nested_apart hnested hapart)
  have hresolved := nested_map (Token.sameBracket_resolveLinks context) hjoined
  have hwrapped := nested_wrapTables hresolved
  cases counter with
  | none => exact hwrapped
  | some counter =>
    exact nested_of_sameFrame hwrapped (sameFrame_anchorHeadings context counter _)

/-- The passes over a page keep a stream nested, if none of its definitions begins inside another:
the text, the bodies of footnotes and the items of the footnote list are nested. They remain so if
the wrapper's tags count as a bracket around every table and the tags of an item as one around the
rest of it. -/
theorem nested_collected (hnested : Nested Paired tokens) (hapart : HasDefinitionsApart tokens)
    (context : Context) (counter : Option Counter) :
    let pageId := String.ofList context.pageId
    let collected := Collector.collect {} (prepare context counter tokens).1
    (Nested Paired collected.2 ∧ Nested Wrapped collected.2) ∧
      (∀ definition ∈ collected.1.definitions,
        Nested Paired definition.body ∧ Nested Wrapped definition.body) ∧
      ∀ item ∈ collected.1.listed,
        Nested Paired (itemTokens pageId item.1 item.2) ∧
          ∃ inner, itemTokens pageId item.1 item.2 =
            .html ("<li id=\"" ++ itemId item.2.name ++ "\">") :: (inner ++ [.html "</li>\n"]) ∧
            Nested Wrapped inner := by
  intro pageId collected
  have hprepared := nested_prepare hnested hapart context counter
  obtain ⟨⟨-, hdefinitions⟩, hbody⟩ :=
    collectsNested_of_nested hprepared {} ⟨rfl, List.forall_mem_nil _⟩
  refine ⟨⟨nested_paired hbody, hbody⟩, fun definition hdefinition => ?_, fun item hitem => ?_⟩
  · exact ⟨nested_paired (hdefinitions definition hdefinition), hdefinitions definition hdefinition⟩
  · obtain ⟨inner, hinner, htokens⟩ := exists_nested_itemTokens
      (hdefinitions item.2 (mem_listed_iff.mp hitem).1) pageId item.1
    refine ⟨?_, inner, htokens, hinner⟩
    rw [htokens]
    exact .alone rfl rfl ((nested_paired hinner).append (.alone rfl rfl .nil))

/-- A page with a footnote that is defined in a quote, a table, and a heading that refers to the
footnote. -/
theorem nested_collected_quoted :
    let opening (kind : Token.Kind) : Token := { kind, nesting := .opening }
    let closing (kind : Token.Kind) : Token := { kind, nesting := .closing }
    let mark : Token := { kind := .footnoteOpen, nesting := .opening, label := some "n" }
    let refer : Token :=
      { kind := .inline, children := some [{ kind := .footnoteReference, label := some "n" }] }
    let tokens := [opening .quoteOpen, mark, opening .paragraphOpen, { kind := .inline },
      closing .paragraphClose, closing .footnoteClose, closing .quoteClose, opening .tableOpen,
      closing .tableClose, opening .headingOpen, refer, closing .headingClose]
    let collected := Collector.collect {} (prepare ⟨none, []⟩ (some {}) tokens).1
    names (collected.1.listed.map Prod.snd) = ["n"] ∧
      collected.2.map Token.kind = [.quoteOpen, .quoteClose, .htmlBlock, .tableOpen, .tableClose,
        .htmlBlock, .headingOpen, .inline, .headingClose] ∧
      Nested Wrapped collected.2 ∧
      (∀ definition ∈ collected.1.definitions, Nested Wrapped definition.body) ∧
      ∀ item ∈ collected.1.listed, Nested Paired (itemTokens "" item.1 item.2) := by
  intro opening closing mark refer tokens collected
  have hnested : Nested Paired tokens := by decide +kernel
  have hapart : HasDefinitionsApart tokens := hasDefinitionsApart_of_countP (by decide)
  obtain ⟨⟨-, hbody⟩, hdefinitions, hitems⟩ := nested_collected hnested hapart ⟨none, []⟩ (some {})
  exact ⟨by decide +kernel, by decide +kernel, hbody,
    fun definition hdefinition => (hdefinitions definition hdefinition).2,
    fun item hitem => (hitems item hitem).1⟩

end Folio.Book
