import Folio.Markdown.AttributeBlock
import Folio.Markdown.HeadingAttributes
import Folio.Markdown.Inline
import Folio.Markdown.Quotes
import Folio.Markdown.Structure
import Folio.Markdown.Symbols
import Folio.Markdown.TaskList

/-!
# Documents

Parsing reads the block structure first, since it tells which labels are defined, and then the text
of each block. Extensions act on the stream of tokens between these steps and behind them.
-/

namespace Folio.Markdown

/-- Join neighbouring texts; an escaped character is text from here on, and the first token of a row
keeps the rest of its fields. -/
def joinText : List Token → List Token
  | [] => []
  | token :: rest =>
    let token : Token := if token.kind = .textSpecial then { token with kind := .text } else token
    match joinText rest with
    | next :: others =>
      if token.kind = .text && next.kind = .text then
        { token with content := token.content ++ next.content } :: others
      else token :: next :: others
    | [] => [token]

/-- Change the children of inline tokens. -/
def mapInline (f : Token → List Token) (tokens : List Token) : List Token :=
  tokens.map fun token =>
    if token.kind = .inline then { token with children := some (f token) } else token

/-- Parse a document. -/
def parse (extensions : Extensions) (text : String) : List Token :=
  let (blocks, definitions) := readDocument extensions text.toList
  let tokens := blocksTokens false blocks
  let tokens :=
    if extensions.headingAttributes then liftAttributes readAttributes? tokens else tokens
  let tokens :=
    mapInline (fun token => inlineTokens extensions definitions token.content.toList) tokens
  let tokens := if extensions.taskLists then markTasks tokens else tokens
  let smart (children : List Token) : List Token :=
    if extensions.smartPunctuation then curlQuotes (replaceSymbols false children) else children
  mapInline (fun token => joinText (smart token.childList)) tokens

end Folio.Markdown
