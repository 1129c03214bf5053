/-!
# Tokens

A parsed page is a flat list of tokens. Block constructs open and close with a token each, and an
inline token carries the parsed content of one text block as its children. Passes over a page look
at the kind of a token and hand on all others unchanged.
-/

namespace Folio

/-- What a token stands for. -/
inductive Token.Kind where
  | inline | text | textSpecial | softBreak | hardBreak | codeInline
  | codeBlock | fence | rule | htmlBlock | htmlInline | image
  | paragraphOpen | paragraphClose | headingOpen | headingClose
  | quoteOpen | quoteClose | listItemOpen | listItemClose
  | bulletListOpen | bulletListClose | orderedListOpen | orderedListClose
  | tableOpen | tableClose | tableHeadOpen | tableHeadClose | tableBodyOpen | tableBodyClose
  | tableRowOpen | tableRowClose | headCellOpen | headCellClose | cellOpen | cellClose
  | linkOpen | linkClose | emphasisOpen | emphasisClose | strongOpen | strongClose
  | strikeOpen | strikeClose
  | footnoteReference | footnoteOpen | footnoteClose
  | noteListOpen | noteListClose | noteClose
  /-- A kind that no pass knows. -/
  | other (name : String)
  deriving DecidableEq, Repr, Inhabited

namespace Token.Kind

/-- The kinds with a fixed name. -/
def named : List (Kind × String) := [
  (.inline, "inline"), (.text, "text"), (.textSpecial, "text_special"),
  (.softBreak, "softbreak"), (.hardBreak, "hardbreak"), (.codeInline, "code_inline"),
  (.codeBlock, "code_block"), (.fence, "fence"), (.rule, "hr"), (.htmlBlock, "html_block"),
  (.htmlInline, "html_inline"), (.image, "image"),
  (.paragraphOpen, "paragraph_open"), (.paragraphClose, "paragraph_close"),
  (.headingOpen, "heading_open"), (.headingClose, "heading_close"),
  (.quoteOpen, "blockquote_open"), (.quoteClose, "blockquote_close"),
  (.listItemOpen, "list_item_open"), (.listItemClose, "list_item_close"),
  (.bulletListOpen, "bullet_list_open"), (.bulletListClose, "bullet_list_close"),
  (.orderedListOpen, "ordered_list_open"), (.orderedListClose, "ordered_list_close"),
  (.tableOpen, "table_open"), (.tableClose, "table_close"),
  (.tableHeadOpen, "thead_open"), (.tableHeadClose, "thead_close"),
  (.tableBodyOpen, "tbody_open"), (.tableBodyClose, "tbody_close"),
  (.tableRowOpen, "tr_open"), (.tableRowClose, "tr_close"),
  (.headCellOpen, "th_open"), (.headCellClose, "th_close"),
  (.cellOpen, "td_open"), (.cellClose, "td_close"),
  (.linkOpen, "link_open"), (.linkClose, "link_close"),
  (.emphasisOpen, "em_open"), (.emphasisClose, "em_close"),
  (.strongOpen, "strong_open"), (.strongClose, "strong_close"),
  (.strikeOpen, "s_open"), (.strikeClose, "s_close"),
  (.footnoteReference, "footnote_ref"), (.footnoteOpen, "footnote_reference_open"),
  (.footnoteClose, "footnote_reference_close"), (.noteListOpen, "footnote_block_open"),
  (.noteListClose, "footnote_block_close"), (.noteClose, "footnote_close")]

/-- The name of a kind. -/
def name : Kind → String
  | .other name => name
  | kind => (named.lookup kind).getD ""

/-- The kind with a name. -/
def ofName (name : String) : Kind :=
  match named.find? (·.2 == name) with
  | some (kind, _) => kind
  | none => .other name

end Token.Kind

/-- How a token relates to the tokens around it. -/
inductive Token.Nesting where
  | alone
  | opening
  | closing
  deriving DecidableEq, Repr, Inhabited

/-- The value of an attribute. -/
inductive Token.Value where
  | text (s : String)
  | number (n : Int)
  deriving DecidableEq, Repr, Inhabited

/-- The value as it is written in a tag. -/
def Token.Value.toText : Token.Value → String
  | .text s => s
  | .number n => toString n

/-- Attributes in the order in which they are written. -/
abbrev Token.Attributes := List (String × Token.Value)

namespace Token.Attributes

/-- Set an attribute; one that is there keeps its place. -/
def set (name : String) (value : Value) : Attributes → Attributes
  | [] => [(name, value)]
  | (key, old) :: rest =>
    if key = name then (key, value) :: rest else (key, old) :: set name value rest

/-- Attributes from pairs, a later pair overriding an earlier one with the same name. -/
def ofPairs (pairs : List (String × Value)) : Attributes :=
  pairs.foldl (fun attrs pair => set pair.1 pair.2 attrs) []

/-- The value of an attribute, if it is there. -/
def get? (attrs : Attributes) (name : String) : Option Value := attrs.lookup name

/-- Add a word to an attribute that holds a list of words. -/
def addWord (attrs : Attributes) (name word : String) : Attributes :=
  match attrs.get? name with
  | some old => attrs.set name (.text (old.toText ++ " " ++ word))
  | none => attrs.set name (.text word)

end Token.Attributes

/-- One token of a page. -/
structure Token where
  kind : Token.Kind
  /-- The name of the HTML element. -/
  tag : String := ""
  nesting : Token.Nesting := .alone
  attrs : Token.Attributes := []
  /-- The text of the token; of an inline token, the source of its children. -/
  content : String := ""
  /-- The characters that mark the construct in the source. -/
  markup : String := ""
  /-- The words behind the mark of a fence, or a remark on where the token comes from. -/
  info : String := ""
  /-- Whether the token stands between blocks, where line breaks separate tags. -/
  block : Bool := false
  /-- Whether the tag is left out in serialized HTML. -/
  hidden : Bool := false
  /-- The label of a footnote. -/
  label : Option String := none
  children : Option (List Token) := none
  deriving Repr, Inhabited

namespace Token

/-- A token of raw HTML that stands between blocks. -/
def html (content : String) : Token := { kind := .htmlBlock, content }

/-- A token of raw HTML inside a text block. -/
def inlineHtml (content : String) : Token := { kind := .htmlInline, content }

/-- The children, an absent list counting as empty. -/
def childList (token : Token) : List Token := token.children.getD []

end Token

end Folio
