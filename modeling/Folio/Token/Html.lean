import Folio.Text.Entity
import Folio.Text.Escape
import Folio.Token.Basic

/-!
# Serialized HTML

A token stream is written as XHTML-style markup. Most tokens are tags; a line break follows the tag
of a block unless the text of the block or its own end tag comes next, so tight list items stay on
one line.
-/

namespace Folio.Token

open Folio.Text

/-- Attributes as they stand in a tag, a space before each. -/
def attributesHtml (attrs : Attributes) : String :=
  String.join (attrs.map fun attr =>
    " " ++ escapedHtml attr.1 ++ "=\"" ++ escapedHtml attr.2.toText ++ "\"")

mutual

/-- The plain text of a token, as the alternative text of an image shows it. -/
def plainText : Token → String
  | ⟨kind, _, _, _, content, _, _, _, _, _, children⟩ =>
    match kind with
    | .text | .textSpecial | .codeInline | .htmlInline | .htmlBlock => content
    | .image => plainTextChildren children
    | .softBreak | .hardBreak => "\n"
    | _ => ""

/-- The plain text of children. -/
def plainTextChildren : Option (List Token) → String
  | none => ""
  | some children => plainTextList children

/-- The plain text of the tokens of a list, one after the other. -/
def plainTextList : List Token → String
  | [] => ""
  | token :: rest => plainText token ++ plainTextList rest

end

/-- Whether the line ends behind the tag of a block with this token following. -/
def breaksLine (token : Token) (next : Option Token) : Bool :=
  token.block &&
    !(token.nesting = .opening &&
      match next with
      | some next =>
        next.kind = .inline || next.hidden || (next.nesting = .closing && next.tag = token.tag)
      | none => false)

/-- A token written as a tag between its neighbours. -/
def tagHtml (previous : Option Token) (token : Token) (next : Option Token) : String :=
  if token.hidden then ""
  else
    (if token.block && token.nesting ≠ .closing && previous.any (·.hidden) then "\n" else "") ++
      (if token.nesting = .closing then "</" else "<") ++ token.tag ++
      attributesHtml token.attrs ++ (if token.nesting = .alone then " /" else "") ++
      (if breaksLine token next then ">\n" else ">")

/-- A fenced code block; the first word behind the fence names its language. -/
def fenceHtml (token : Token) : String :=
  let language := (trim (unescape token.info.toList)).takeWhile (!isSpace ·)
  let attrs :=
    if language = [] then token.attrs
    else token.attrs.addWord "class" ("language-" ++ .ofList language)
  "<pre><code" ++ attributesHtml attrs ++ ">" ++ escapedHtml token.content ++ "</code></pre>\n"

/-- The names of kinds that are written with the number of a note. -/
def numberedNames : List String :=
  ["footnote_ref", "footnote_open", "footnote_anchor", "footnote_caption", "footnote_anchor_name"]

/-- Whether a token can be written: no token carries the number of a note. -/
def isWritable (token : Token) : Bool := !numberedNames.contains token.kind.name

/-- Whether a stream of tokens can be written as HTML. -/
def areWritable (tokens : List Token) : Bool :=
  tokens.all fun token =>
    if token.kind = .inline then token.childList.all isWritable else token.isWritable

/-- A token that is not an inline token, between its neighbours. -/
def toHtml (previous : Option Token) (token : Token) (next : Option Token) : String :=
  match token.kind with
  | .codeInline =>
    "<code" ++ attributesHtml token.attrs ++ ">" ++ escapedHtml token.content ++ "</code>"
  | .codeBlock =>
    "<pre" ++ attributesHtml token.attrs ++ "><code>" ++ escapedHtml token.content ++
      "</code></pre>\n"
  | .fence => fenceHtml token
  | .image =>
    let alt := Value.text (plainTextChildren token.children)
    tagHtml previous { token with attrs := token.attrs.set "alt" alt } next
  | .hardBreak => "<br />\n"
  | .softBreak => "\n"
  | .text => escapedHtml token.content
  | .htmlBlock | .htmlInline => token.content
  | .noteListOpen =>
    "<hr class=\"footnotes-sep\" />\n<section class=\"footnotes\">\n<ol class=\"footnotes-list\">\n"
  | .noteListClose => "</ol>\n</section>\n"
  | .noteClose => "</li>\n"
  | _ => tagHtml previous token next

/-- The children of an inline token behind a previous one. -/
def inlineHtmlFrom (previous : Option Token) : List Token → String
  | [] => ""
  | token :: rest => toHtml previous token rest.head? ++ inlineHtmlFrom (some token) rest

/-- A stream of tokens behind a previous one. -/
def streamHtmlFrom (previous : Option Token) : List Token → String
  | [] => ""
  | token :: rest =>
    (if token.kind = .inline then inlineHtmlFrom none token.childList
      else toHtml previous token rest.head?) ++
      streamHtmlFrom (some token) rest

/-- A stream of tokens as HTML. All of them have to be such as can be written. -/
def serialize (tokens : List Token) : String := streamHtmlFrom none tokens

end Folio.Token
