import Folio.Token.Basic

/-!
# Blocks

The block structure of a document is a tree. `Block.tokens` writes it as the flat stream of tokens
that all later passes work on; the text of a block becomes an inline token whose children are not
parsed yet.
-/

namespace Folio.Markdown

/-- How the cells of a column are aligned. -/
inductive Alignment where
  | unset | left | center | right
  deriving DecidableEq, Repr, Inhabited

/-- The style of cells with an alignment. -/
def Alignment.attrs : Alignment → Token.Attributes
  | .unset => []
  | .left => [("style", .text "text-align:left")]
  | .center => [("style", .text "text-align:center")]
  | .right => [("style", .text "text-align:right")]

/-- What marks the items of a list. -/
inductive ListKind where
  | bullet (mark : Char)
  /-- Numbers, ended by a mark; the first one is the start of the list. -/
  | ordered (mark : Char) (start : Nat)
  deriving DecidableEq, Repr, Inhabited

/-- The character that tells a list from its neighbours. -/
def ListKind.mark : ListKind → Char
  | .bullet mark => mark
  | .ordered mark _ => mark

mutual

/-- A block of a document. -/
inductive Block where
  | paragraph (content : String)
  | heading (level : Nat) (markup content : String)
  | rule (markup : String)
  | code (content : String)
  | fence (markup info content : String)
  | html (content : String)
  | table (alignments : List Alignment) (head : List String) (rows : List (List String))
  | quote (blocks : List Block)
  /-- A list; between the blocks of a tight one stand no empty lines. -/
  | list (kind : ListKind) (tight : Bool) (items : List Item)
  | footnote (label : String) (blocks : List Block)

/-- An item of a list, with the digits of its number if it has one. -/
inductive Item where
  | mk (number : String) (blocks : List Block)

end

instance : Inhabited Block := ⟨.paragraph ""⟩

/-- The inline token of a block's text. -/
def inlineToken (content : String) : Token :=
  { kind := .inline, content, block := true, children := some [] }

/-- An opening and a closing tag around tokens. -/
def enclose (opener closer : Token.Kind) (tag : String) (markup : String) (attrs : Token.Attributes)
    (tokens : List Token) : List Token :=
  { kind := opener, tag, nesting := .opening, markup, attrs, block := true } ::
    tokens ++ [{ kind := closer, tag, nesting := .closing, markup, block := true }]

/-- The tokens of a cell. -/
def cellTokens (head : Bool) (alignment : Alignment) (content : String) : List Token :=
  if head then
    enclose .headCellOpen .headCellClose "th" "" alignment.attrs [inlineToken content]
  else enclose .cellOpen .cellClose "td" "" alignment.attrs [inlineToken content]

/-- The tokens of a row, with as many cells as there are alignments. -/
def rowTokens (head : Bool) (alignments : List Alignment) (cells : List String) : List Token :=
  enclose .tableRowOpen .tableRowClose "tr" "" [] <|
    (alignments.zipIdx).flatMap fun (alignment, n) =>
      cellTokens head alignment (cells.getD n "")

/-- The tokens of a table. -/
def tableTokens (alignments : List Alignment) (head : List String) (rows : List (List String)) :
    List Token :=
  enclose .tableOpen .tableClose "table" "" [] <|
    enclose .tableHeadOpen .tableHeadClose "thead" "" [] (rowTokens true alignments head) ++
      if rows.isEmpty then []
      else
        enclose .tableBodyOpen .tableBodyClose "tbody" "" []
          (rows.flatMap (rowTokens false alignments))

mutual

/-- The tokens of a block. The tags of a paragraph are hidden directly below a tight list item. -/
def Block.tokens (tight : Bool) : Block → List Token
  | .paragraph content =>
    (enclose .paragraphOpen .paragraphClose "p" "" [] [inlineToken content]).map fun token =>
      { token with hidden := tight && token.kind ≠ .inline }
  | .heading level markup content =>
    enclose .headingOpen .headingClose ("h" ++ toString level) markup [] [inlineToken content]
  | .rule markup => [{ kind := .rule, tag := "hr", markup, block := true }]
  | .code content => [{ kind := .codeBlock, tag := "code", content, block := true }]
  | .fence markup info content =>
    [{ kind := .fence, tag := "code", markup, info, content, block := true }]
  | .html content => [{ kind := .htmlBlock, content, block := true }]
  | .table alignments head rows => tableTokens alignments head rows
  | .quote blocks => enclose .quoteOpen .quoteClose "blockquote" ">" [] (blocksTokens false blocks)
  | .list kind tight items =>
    match kind with
    | .bullet mark =>
      enclose .bulletListOpen .bulletListClose "ul" mark.toString [] (itemsTokens mark tight items)
    | .ordered mark start =>
      let attrs := if start = 1 then [] else [("start", Token.Value.number start)]
      enclose .orderedListOpen .orderedListClose "ol" mark.toString attrs
        (itemsTokens mark tight items)
  | .footnote label blocks =>
    { kind := .footnoteOpen, nesting := .opening, label := some label } ::
      blocksTokens false blocks ++ [{ kind := .footnoteClose, nesting := .closing }]

/-- The tokens of blocks one after the other. -/
def blocksTokens (tight : Bool) : List Block → List Token
  | [] => []
  | block :: rest => block.tokens tight ++ blocksTokens tight rest

/-- The tokens of the items of a list. -/
def itemsTokens (mark : Char) (tight : Bool) : List Item → List Token
  | [] => []
  | .mk number blocks :: rest =>
    { kind := .listItemOpen, tag := "li", nesting := .opening, markup := mark.toString,
      info := number, block := true } ::
      blocksTokens tight blocks ++
      { kind := .listItemClose, tag := "li", nesting := .closing, markup := mark.toString,
        block := true } :: itemsTokens mark tight rest

end

end Folio.Markdown
