import Folio.Markdown.Emphasis
import Folio.Markdown.Symbols

/-!
# Typographic quotes

Straight quotes in plain text become curly ones. Whether a quote opens or closes depends on the
characters around it. A closing quote is paired with the innermost opening one of its kind at the
same depth of nesting; an opening quote without a partner stays straight, and a single quote that
opens nothing is an apostrophe. Addresses that show themselves keep their quotes.
-/

namespace Folio.Markdown

open Folio.Text

/-- A straight quote in the text of a token. -/
structure Quote where
  token : Nat
  position : Nat
  single : Bool
  /-- The depth of nesting. -/
  level : Nat
  opens : Bool
  closes : Bool

/-- Whether a quote between two characters opens and closes. Between letters it does neither, and
behind a digit the first of two double quotes means inches. -/
def quoteSides (single : Bool) (before behind : Char) : Bool × Bool :=
  let spaceBefore := isFlankingSpace before
  let spaceBehind := isFlankingSpace behind
  let markBefore := isPunctuation before
  let markBehind := isPunctuation behind
  let opens := !(spaceBehind || (markBehind && !(spaceBefore || markBefore)))
  let closes := !(spaceBefore || (markBefore && !(spaceBehind || markBehind)))
  let inches := !single && behind = '\x22' && before.isDigit
  if inches then (false, false)
  else if opens && closes then (markBefore, markBehind)
  else (opens, closes)

/-- The next character of a text that continues with tokens: the first one on the same line, a space
if there is none. `pick` chooses a character of a content. -/
def neighbour (pick : List Char → Option Char) : List Token → Char
  | [] => ' '
  | token :: rest =>
    if token.kind = .softBreak || token.kind = .hardBreak then ' '
    else (pick token.content.toList).getD (neighbour pick rest)

/-- The quotes of a text between two characters. -/
def quotesIn (token level : Nat) (behind : Char) : Nat → Char → List Char → List Quote
  | _, _, [] => []
  | position, before, c :: cs =>
    let rest := quotesIn token level behind (position + 1) c cs
    if c = '\x22' || c = '\x27' then
      let single := c = '\x27'
      let (opens, closes) := quoteSides single before (cs.head?.getD behind)
      { token, position, single, level, opens, closes } :: rest
    else rest

/-- Each token's depth of nesting with the quotes in it, behind the tokens of `before`, of which the
nearest is the first. -/
def quotesByToken (before : List Token) (level : Nat) (inAddress : Bool) :
    List Token → List (Nat × List Quote)
  | [] => []
  | token :: rest =>
    let own := if token.nesting = .closing then level - 1 else level
    let inner := if token.nesting = .opening then own + 1 else own
    let quotes :=
      if token.kind = .text && !inAddress then
        quotesIn before.length own (neighbour List.head? rest) 0 (neighbour List.getLast? before)
          token.content.toList
      else []
    (own, quotes) :: quotesByToken (token :: before) inner (staysInAddress inAddress token) rest

/-- A character to write at a position of a token's text. -/
structure Change where
  token : Nat
  position : Nat
  char : Char

/-- Write another character in the place of a quote. -/
def Quote.become (quote : Quote) (char : Char) : Change := ⟨quote.token, quote.position, char⟩

/-- The opening quotes that wait for a partner, the innermost first, and the changes so far. -/
structure Waiting where
  quotes : List Quote := []
  changes : List Change := []

/-- The opening quote that a quote closes, and the quotes around it. -/
def partner? (quote : Quote) : List Quote → Option (Quote × List Quote)
  | [] => none
  | opener :: rest =>
    if opener.level < quote.level then none
    else if opener.single = quote.single ∧ opener.level = quote.level then some (opener, rest)
    else partner? quote rest

/-- Pair one quote. -/
def pairQuote (waiting : Waiting) (quote : Quote) : Waiting :=
  let change (changes : List Change) : Waiting :=
    { waiting with changes := changes ++ waiting.changes }
  let apostrophe := if quote.single then change [quote.become '’'] else waiting
  match if quote.closes then partner? quote waiting.quotes else none with
  | some (opener, quotes) =>
    let (left, right) := if quote.single then ('‘', '’') else ('“', '”')
    { change [quote.become right, opener.become left] with quotes }
  | none =>
    if quote.opens then { waiting with quotes := quote :: waiting.quotes } else apostrophe

/-- Pair the quotes of a token; quotes that wait in deeper nesting find no partner any more. -/
def pairQuotes (waiting : Waiting) (token : Nat × List Quote) : Waiting :=
  token.2.foldl pairQuote
    { waiting with quotes := waiting.quotes.dropWhile fun quote => token.1 < quote.level }

/-- Write the changes of a token into its text. -/
def applyChanges (changes : List Change) (token : Nat) (content : String) : String :=
  let own := changes.filter (·.token = token)
  if own.isEmpty then content
  else
    .ofList <| content.toList.zipIdx.map fun (c, position) =>
      ((own.find? (·.position = position)).map (·.char)).getD c

/-- Replace straight quotes by curly ones. -/
def curlQuotes (tokens : List Token) : List Token :=
  let waiting := (quotesByToken [] 0 false tokens).foldl pairQuotes {}
  tokens.zipIdx.map fun (token, n) =>
    { token with content := applyChanges waiting.changes n token.content }

end Folio.Markdown
