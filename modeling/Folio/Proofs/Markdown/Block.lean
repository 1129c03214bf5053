import Folio.Markdown.Block

/-!
# Headings of a stream of blocks

The stream that blocks are written as has the text of a heading right behind its opening tag. Lists
and quotes only put tags around streams with this property.
-/

namespace Folio.Markdown

/-- A text token comes right behind the opening tag of every heading. -/
def HeadingsHaveText (tokens : List Token) : Prop :=
  ∀ i heading, tokens[i]? = some heading → heading.kind = .headingOpen →
    ∃ next, tokens[i + 1]? = some next ∧ next.kind = .inline

theorem headingsHaveText_nil : HeadingsHaveText [] := nofun

theorem headingsHaveText_cons {token : Token} {rest : List Token} :
    HeadingsHaveText (token :: rest) ↔
      (token.kind = .headingOpen → ∃ next, rest[0]? = some next ∧ next.kind = .inline) ∧
        HeadingsHaveText rest := by
  constructor
  · exact fun h => ⟨h 0 token rfl, fun i => h (i + 1)⟩
  · rintro ⟨hfirst, hrest⟩ (_ | i) heading hi hheading
    · rw [List.getElem?_cons_zero, Option.some.injEq] at hi
      exact hfirst (hi ▸ hheading)
    · exact hrest i heading hi hheading

variable {s t : List Token}

/-- Two streams one behind the other. -/
theorem HeadingsHaveText.append (hs : HeadingsHaveText s) (ht : HeadingsHaveText t) :
    HeadingsHaveText (s ++ t) := by
  induction s with
  | nil => exact ht
  | cons token rest ih =>
    obtain ⟨hfirst, hrest⟩ := headingsHaveText_cons.mp hs
    refine headingsHaveText_cons.mpr ⟨fun hheading => ?_, ih hrest⟩
    obtain ⟨next, hnext, hinline⟩ := hfirst hheading
    obtain ⟨hlength, -⟩ := List.getElem?_eq_some_iff.mp hnext
    exact ⟨next, (List.getElem?_append_left hlength).trans hnext, hinline⟩

/-- A token that opens no heading. -/
theorem HeadingsHaveText.cons {token : Token} (htoken : token.kind ≠ .headingOpen)
    (h : HeadingsHaveText s) : HeadingsHaveText (token :: s) :=
  headingsHaveText_cons.mpr ⟨fun hheading => absurd hheading htoken, h⟩

theorem headingsHaveText_singleton {token : Token} (htoken : token.kind ≠ .headingOpen) :
    HeadingsHaveText [token] :=
  headingsHaveText_nil.cons htoken

/-- Tags of anything but a heading around a stream. -/
theorem HeadingsHaveText.enclose {opener closer : Token.Kind}
    (hopener : opener ≠ .headingOpen) (hcloser : closer ≠ .headingOpen) {tag markup : String}
    {attrs : Token.Attributes} (h : HeadingsHaveText s) :
    HeadingsHaveText (Markdown.enclose opener closer tag markup attrs s) :=
  .cons hopener (h.append (headingsHaveText_singleton hcloser))

theorem headingsHaveText_flatMap {α : Type} {f : α → List Token} {xs : List α}
    (h : ∀ x ∈ xs, HeadingsHaveText (f x)) : HeadingsHaveText (xs.flatMap f) := by
  induction xs with
  | nil => exact headingsHaveText_nil
  | cons x xs ih =>
    rw [List.flatMap_cons]
    exact (h x List.mem_cons_self).append (ih fun y hy => h y (List.mem_cons_of_mem _ hy))

theorem headingsHaveText_rowTokens (head : Bool) (alignments : List Alignment)
    (cells : List String) : HeadingsHaveText (rowTokens head alignments cells) := by
  refine .enclose (by nofun) (by nofun) (headingsHaveText_flatMap fun cell _ => ?_)
  cases head <;> exact .enclose (by nofun) (by nofun) (headingsHaveText_singleton nofun)

theorem headingsHaveText_tableTokens (alignments : List Alignment) (head : List String)
    (rows : List (List String)) : HeadingsHaveText (tableTokens alignments head rows) := by
  have hhead := headingsHaveText_rowTokens true alignments head
  refine .enclose (by nofun) (by nofun) (.append (.enclose (by nofun) (by nofun) hhead) ?_)
  split
  · exact headingsHaveText_nil
  · exact .enclose (by nofun) (by nofun)
      (headingsHaveText_flatMap fun row _ => headingsHaveText_rowTokens false alignments row)

mutual

/-- The tokens of one block. -/
theorem Block.headingsHaveText_tokens (tight : Bool) :
    (block : Block) → HeadingsHaveText (block.tokens tight)
  | .paragraph content => by
    rw [Block.tokens]
    exact .cons nofun (.cons nofun (headingsHaveText_singleton nofun))
  | .heading level markup content => by
    rw [Block.tokens]
    exact headingsHaveText_cons.mpr
      ⟨fun _ => ⟨inlineToken content, rfl, rfl⟩, .cons nofun (headingsHaveText_singleton nofun)⟩
  | .rule _ | .code _ | .fence .. | .html _ => by
    rw [Block.tokens]
    exact headingsHaveText_singleton nofun
  | .table alignments head rows => by
    rw [Block.tokens]
    exact headingsHaveText_tableTokens alignments head rows
  | .quote blocks => by
    rw [Block.tokens]
    exact .enclose (by nofun) (by nofun) (headingsHaveText_blocksTokens false blocks)
  | .list (.bullet mark) tight items => by
    rw [Block.tokens]
    exact .enclose (by nofun) (by nofun) (headingsHaveText_itemsTokens mark tight items)
  | .list (.ordered mark start) tight items => by
    rw [Block.tokens]
    exact .enclose (by nofun) (by nofun) (headingsHaveText_itemsTokens mark tight items)
  | .footnote label blocks => by
    rw [Block.tokens]
    exact .cons nofun
      ((headingsHaveText_blocksTokens false blocks).append (headingsHaveText_singleton nofun))

/-- The stream of a document has the text of every heading right behind its opening tag. -/
theorem headingsHaveText_blocksTokens (tight : Bool) :
    (blocks : List Block) → HeadingsHaveText (blocksTokens tight blocks)
  | [] => by
    rw [blocksTokens]
    exact headingsHaveText_nil
  | block :: rest => by
    rw [blocksTokens]
    exact (block.headingsHaveText_tokens tight).append (headingsHaveText_blocksTokens tight rest)

/-- The tokens of items. -/
theorem headingsHaveText_itemsTokens (mark : Char) (tight : Bool) :
    (items : List Item) → HeadingsHaveText (itemsTokens mark tight items)
  | [] => by
    rw [itemsTokens]
    exact headingsHaveText_nil
  | .mk number blocks :: rest => by
    rw [itemsTokens]
    have hblocks := headingsHaveText_blocksTokens tight blocks
    have hrest := headingsHaveText_itemsTokens mark tight rest
    exact .cons nofun (hblocks.append (.cons nofun hrest))

end

end Folio.Markdown
