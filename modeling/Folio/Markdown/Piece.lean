import Folio.Markdown.Emphasis
import Folio.Markdown.Extensions
import Folio.Markdown.HtmlTag
import Folio.Markdown.Line
import Folio.Markdown.Target
import Folio.Url.Link

/-!
# Pieces of text

The text of a block falls into pieces: plain characters, line breaks, escapes, code, addresses, raw
HTML, links, images and footnote references. This module recognises at a position each piece that
does not enclose other pieces, and reads the part of links that stands behind their label.
-/

namespace Folio.Markdown

open Folio.Text

/-- The text of a block, with what reading it depends on. -/
structure Passage where
  chars : Array Char
  extensions : Extensions
  definitions : Definitions

namespace Passage

/-- The text from a position to the end. -/
def behind (passage : Passage) (n : Nat) : List Char := slice passage.chars n passage.chars.size

/-- The first position from `n` on, below `limit`, that holds no space, tab or line break. -/
def skipBlank (passage : Passage) (limit n : Nat) : Nat :=
  skipWhile (fun c => isSpaceOrTab c || c = '\n') passage.chars limit n

/-- The first position from `n` on, below `limit`, that holds no space or tab. -/
def skipSpace (passage : Passage) (limit n : Nat) : Nat :=
  skipWhile isSpaceOrTab passage.chars limit n

end Passage

/-- A piece of the text of a block. -/
inductive Piece where
  | plain (text : List Char)
  /-- The end of a line; spaces before it decide whether the break shows. -/
  | lineEnd
  | hardBreak
  /-- A character that is written in another way. -/
  | special (content source : List Char) (info : String)
  | code (mark content : List Char)
  /-- An address between angle brackets, and the text that shows it. -/
  | address (url shown : List Char)
  | html (content : List Char)
  | footnote (label : List Char)
  /-- A link whose label lies between two positions. -/
  | link (first last : Nat) (target : Reference)
  | image (first last : Nat) (target : Reference)

/-- A piece that has been found, and the position behind it. -/
abbrev Found := Piece × Nat

/-! ## Characters and breaks -/

/-- The characters at which another piece than plain text may begin. -/
def isTerminator (c : Char) : Bool := "\n!#$%&*+-:<=>@[\\]^_\x60\x7b\x7d~".toList.contains c

/-- A run of plain characters. -/
def plainRun (passage : Passage) (limit n : Nat) : Found :=
  let next := skipWhile (!isTerminator ·) passage.chars limit n
  (.plain (slice passage.chars n next), next)

/-- The end of a line; the spaces and tabs in front of the next line belong to it. -/
def lineEnd (passage : Passage) (limit n : Nat) : Found :=
  (.lineEnd, passage.skipSpace limit (n + 1))

/-- A backslash with the character behind it. -/
def escape? (passage : Passage) (limit n : Nat) : Option Found :=
  if limit ≤ n + 1 then none
  else
    match passage.chars[n + 1]? with
    | none => none
    | some c =>
      if c = '\n' then some (.hardBreak, passage.skipSpace limit (n + 2))
      else
        let content := if isAsciiPunctuation c then [c] else ['\\', c]
        some (.special content ['\\', c] "escape", n + 2)

/-- A character reference. One that names no character stands for the replacement character. -/
def reference? (passage : Passage) (limit n : Nat) : Option Found :=
  if limit ≤ n + 1 then none
  else
    match referenceName? (passage.behind n) with
    | none => none
    | some name =>
      let content :=
        if name.head? = some '#' then
          (numericCode? 7 6 name).map fun code =>
            [Char.ofNat (if isReferable code then code else 0xfffd)]
        else namedReference? name
      content.map fun content =>
        (.special content ('&' :: name ++ [';']) "entity", n + name.length + 2)

/-! ## Addresses and raw HTML -/

/-- Whether a text is an address with a scheme of 2 to 32 characters. One line break may end it. -/
def isAddress (cs : List Char) : Bool :=
  let scheme := cs.takeWhile fun c => c.isAlphanum || c = '+' || c = '.' || c = '-'
  let rest := dropSuffix ['\n'] (cs.drop scheme.length)
  (scheme.head?.any Char.isAlpha) && 2 ≤ scheme.length && scheme.length ≤ 32
    && rest.head? = some ':' && rest.all fun c => 0x20 < c.toNat && c ≠ '<' && c ≠ '>'

/-- A label of the host of a mail address: letters, digits and inner hyphens, no more than 63. -/
def isMailLabel (cs : List Char) : Bool :=
  cs ≠ [] && cs.length ≤ 63 && (cs.all fun c => c.isAlphanum || c = '-')
    && cs.head? ≠ some '-' && cs.getLast? ≠ some '-'

/-- Whether a text is a mail address. One line break may end it. -/
def isMailAddress (cs : List Char) : Bool :=
  let (user, host) := cutAt '@' (dropSuffix ['\n'] cs)
  user ≠ []
    && (user.all fun c => c.isAlphanum || ".!#$%&'*+/=?^_\x60\x7b|\x7d~-".toList.contains c)
    && match host with
      | none => false
      | some host => (splitAt '.' host).all isMailLabel

/-- An address between angle brackets. -/
def address? (passage : Passage) (limit n : Nat) : Option Found :=
  let last := skipWhile (fun c => c ≠ '<' && c ≠ '>') passage.chars limit (n + 1)
  if limit ≤ last || passage.chars[last]? ≠ some '>' then none
  else
    let url := slice passage.chars (n + 1) last
    let target :=
      if isAddress url then some url
      else if isMailAddress url then some ("mailto:".toList ++ url)
      else none
    target.bind fun target =>
      let href := Url.normalizeLink target
      if Url.isAllowed href then some (.address href (Url.normalizeLinkText url), last + 1)
      else none

/-- Raw HTML inside a text. It may reach beyond the limit. -/
def rawHtml? (passage : Passage) (limit n : Nat) : Option Found :=
  let likely := (passage.chars[n + 1]?).any fun c => c.isAlpha || "!?/".toList.contains c
  if limit ≤ n + 2 || !likely then none
  else
    let text := passage.behind n
    (dropHtml? text).map fun rest =>
      let length := text.length - rest.length
      (.html (text.take length), n + length)

/-! ## Footnotes and targets of links -/

/-- A reference to a footnote that the document defines. -/
def footnote? (passage : Passage) (limit n : Nat) : Option Found :=
  if !passage.extensions.footnotes || limit < n + 3 || passage.chars[n + 1]? ≠ some '^' then none
  else
    let stop := skipWhile (fun c => c ≠ ' ' && c ≠ '\n' && c ≠ ']') passage.chars limit (n + 2)
    let label := slice passage.chars (n + 2) stop
    if limit ≤ stop || passage.chars[stop]? ≠ some ']' || label = []
        || !passage.definitions.footnotes.contains label then none
    else some (.footnote label, stop + 1)

/-- Read the destination and the title of a link, and the blanks around them, from the first of
their characters on. The closing parenthesis has to stand at the position behind them. -/
def readTarget (passage : Passage) (limit n : Nat) : Reference × Nat :=
  match readDestination? passage.chars n limit with
  | none => (⟨[], []⟩, n)
  | some destination =>
    let url := Url.normalizeLink destination.text
    if Url.isAllowed url then
      let start := passage.skipBlank limit destination.next
      match
        if start < limit ∧ start ≠ destination.next then readTitle passage.chars start limit
        else .failed
      with
      | .done title => (⟨url, title.text⟩, passage.skipBlank limit title.next)
      | _ => (⟨url, []⟩, start)
    else (⟨[], []⟩, n)

end Folio.Markdown
