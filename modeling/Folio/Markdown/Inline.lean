import Folio.Markdown.Piece

/-!
# Text inside blocks

Reading the text of a block splits it into pieces from the left. To find the end of a label the
pieces in it are first skipped without reading them; where a skipped piece ends is remembered by its
position. The label of a link is then read as a text of its own within the same memory, the label of
an image as a separate text.
-/

namespace Folio.Markdown

open Folio.Text

/-- What has been found out about a text so far. -/
structure Memory where
  /-- The position behind the piece at each position, where it is known. -/
  skips : Array (Option Nat)

/-- Nothing is known about a text of some length. -/
def Memory.ofSize (size : Nat) : Memory := { skips := .replicate (size + 1) none }

/-- Reading with a memory. -/
abbrev Reading := StateM Memory

/-- Finds the position behind the piece at a position, below a limit. -/
abbrev Skip := Nat → Nat → Reading Nat

/-- Use the remembered answer for a position, or find it and remember it. -/
def remembered (n : Nat) (find : Reading Nat) : Reading Nat := do
  match (← get).skips.getD n none with
  | some next => return next
  | none =>
    let next ← find
    modify fun memory => { memory with skips := memory.skips.setIfInBounds n (some next) }
    return next

/-! ## Code -/

/-- The first run of backticks of some length, from a position on. -/
def closingRun? (passage : Passage) (limit length : Nat) : Nat → Nat → Option Nat
  | 0, _ => none
  | fuel + 1, n =>
    let start := skipWhile (· ≠ '\x60') passage.chars passage.chars.size n
    if passage.chars.size ≤ start then none
    else
      let stop := skipWhile (· = '\x60') passage.chars limit (start + 1)
      if stop - start = length then some start else closingRun? passage limit length fuel stop

/-- The content of code: line breaks are spaces, and one space at each end is dropped if there is
anything but spaces. -/
def codeContent (cs : List Char) : List Char :=
  let cs := cs.map fun c => if c = '\n' then ' ' else c
  if cs.head? = some ' ' ∧ cs.getLast? = some ' ' ∧ cs.any (· ≠ ' ') then (cs.drop 1).dropLast
  else cs

/-- Code between runs of backticks of one length; a run that no other one closes is plain. -/
def codeSpan (passage : Passage) (limit n : Nat) : Found :=
  let next := skipWhile (· = '\x60') passage.chars limit n
  let mark := slice passage.chars n next
  match closingRun? passage limit mark.length (passage.chars.size - next + 1) next with
  | some start =>
    (.code mark (codeContent (slice passage.chars next start)), start + mark.length)
  | none => (.plain mark, next)

/-! ## Labels, links and images -/

/-- The position of the bracket that closes a label, from a position behind its beginning on. -/
def labelEnd? (passage : Passage) (skip : Skip) (limit : Nat) (allowLinks : Bool) :
    Nat → Nat → Nat → Reading (Option Nat)
  | 0, _, _ => return none
  | fuel + 1, depth, n =>
    if limit ≤ n then return none
    else
      let c := passage.chars.getD n ' '
      if c = ']' ∧ depth = 1 then return some n
      else do
        let next ← skip limit n
        if c = '[' ∧ next = n + 1 then labelEnd? passage skip limit allowLinks fuel (depth + 1) next
        else if c = '[' ∧ !allowLinks then return none
        else
          let depth := if c = ']' then depth - 1 else depth
          labelEnd? passage skip limit allowLinks fuel depth next

/-- The position of the bracket that closes the label which begins with the bracket at `n`. -/
def label? (passage : Passage) (skip : Skip) (limit : Nat) (allowLinks : Bool) (n : Nat) :
    Reading (Option Nat) :=
  labelEnd? passage skip limit allowLinks (limit - n) 1 (n + 1)

/-- What a label refers to, and the position behind the reference. A second label may stand at `n`;
without one, or if it is empty, the first label counts. -/
def readReference (passage : Passage) (skip : Skip) (limit first last n : Nat) :
    Reading (Option (Reference × Nat)) := do
  if passage.definitions.references.isEmpty then return none
  else
    let second ←
      if n < limit ∧ passage.chars[n]? = some '[' then label? passage skip limit true n
      else pure none
    let own := slice passage.chars first last
    let (label, next) :=
      match second with
      | none => (own, last + 1)
      | some stop =>
        let label := slice passage.chars (n + 1) stop
        (if label = [] then own else label, stop + 1)
    return (passage.definitions.lookup label).map (·, next)

/-- A link. If what follows its label in parentheses is no target, the label may still be a
reference. -/
def readLink (passage : Passage) (skip : Skip) (limit n : Nat) : Reading (Option Found) := do
  match ← label? passage skip limit false n with
  | none => return none
  | some last =>
    let found (target : Reference × Nat) : Found := (.link (n + 1) last target.1, target.2)
    let referred (n' : Nat) : Reading (Option Found) := do
      return (← readReference passage skip limit (n + 1) last n').map found
    if last + 1 < limit ∧ passage.chars[last + 1]? = some '(' then
      let start := passage.skipBlank limit (last + 2)
      if limit ≤ start then return none
      else
        let (target, stop) := readTarget passage limit start
        if stop < limit ∧ passage.chars[stop]? = some ')' then
          return some (found (target, stop + 1))
        else referred (stop + 1)
    else referred (last + 1)

/-- An image. -/
def readImage (passage : Passage) (skip : Skip) (limit n : Nat) : Reading (Option Found) := do
  if n + 1 < limit ∧ passage.chars[n + 1]? ≠ some '[' then return none
  else
    match ← label? passage skip limit true (n + 1) with
    | none => return none
    | some last =>
      let found (target : Reference × Nat) : Found := (.image (n + 2) last target.1, target.2)
      if last + 1 < limit ∧ passage.chars[last + 1]? = some '(' then
        let start := passage.skipBlank limit (last + 2)
        if limit ≤ start then return none
        else
          let (target, stop) := readTarget passage limit start
          if stop < limit ∧ passage.chars[stop]? = some ')' then
            return some (found (target, stop + 1))
          else return none
      else return (← readReference passage skip limit (n + 2) last (last + 1)).map found

/-! ## Pieces -/

/-- The piece at a position. -/
def findPiece (passage : Passage) (skip : Skip) (limit n : Nat) : Reading (Option Found) :=
  match passage.chars.getD n ' ' with
  | '\n' => return some (lineEnd passage limit n)
  | '\\' => return escape? passage limit n
  | '\x60' => return some (codeSpan passage limit n)
  | '[' => do
    match ← readLink passage skip limit n with
    | some found => return some found
    | none => return footnote? passage limit n
  | '!' => readImage passage skip limit n
  | '<' => return (address? passage limit n).orElse fun _ => rawHtml? passage limit n
  | '&' => return reference? passage limit n
  | c => return if isTerminator c then none else some (plainRun passage limit n)

/-- Skip the piece at a position. Where no room for nesting is left, everything is skipped. -/
def skipPiece (passage : Passage) : Nat → Skip
  | 0 => fun limit n => remembered n (return limit + 1)
  | room + 1 => fun limit n => remembered n do
    match ← findPiece passage (skipPiece passage room) limit n with
    | some (_, next) => return next
    | none => return n + 1

/-! ## Tokens -/

/-- What has been read of a text. -/
structure Draft where
  tokens : Array Token := #[]
  marks : Array Mark := #[]
  /-- Plain characters behind the last token, in reverse. -/
  pending : List Char := []

namespace Draft

/-- Turn the pending characters into a token. -/
def flush (draft : Draft) : Draft :=
  if draft.pending.isEmpty then draft
  else
    let content := String.ofList draft.pending.reverse
    { draft with tokens := draft.tokens.push { kind := .text, content }, pending := [] }

/-- Add plain characters. -/
def addText (draft : Draft) (text : List Char) : Draft :=
  { draft with pending := text.reverse ++ draft.pending }

/-- Add a token. -/
def addToken (draft : Draft) (token : Token) : Draft :=
  let draft := draft.flush
  { draft with tokens := draft.tokens.push token }

/-- Add tokens. -/
def addTokens (draft : Draft) (tokens : List Token) : Draft := tokens.foldl addToken draft

/-- End a line. Two spaces at its end make the break show; they are dropped in either case. -/
def endLine (draft : Draft) : Draft :=
  match draft.pending with
  | ' ' :: ' ' :: rest =>
    { draft with pending := rest.dropWhile (· = ' ') }.addToken { kind := .hardBreak, tag := "br" }
  | ' ' :: rest => { draft with pending := rest }.addToken { kind := .softBreak, tag := "br" }
  | _ => draft.addToken { kind := .softBreak, tag := "br" }

/-- Add a mark of emphasis as a text of its own. -/
def addMark (char : Char) (run : MarkRun) (length width : Nat) (draft : Draft) : Draft :=
  let draft := draft.addToken { kind := .text, content := "".pushn char width }
  let mark : Mark :=
    { char, length, token := draft.tokens.size - 1, opens := run.opens, closes := run.closes }
  { draft with marks := draft.marks.push mark }

/-- Add a run of marks. Marks of deletions go in pairs, and the odd one of a run is plain. -/
def addRun (draft : Draft) (char : Char) (run : MarkRun) : Draft :=
  if char = '~' then
    let draft :=
      if run.length % 2 = 1 then draft.addToken { kind := .text, content := "~" } else draft
    (run.length / 2).repeat (addMark char run 0 2) draft
  else run.length.repeat (addMark char run run.length 1) draft

/-- The tokens of a text that has been read to its end. -/
def finish (draft : Draft) : List Token :=
  let draft := draft.flush
  resolveMarks draft.tokens draft.marks

end Draft

/-- The attribute for the title of a destination, if it has one. -/
def titleAttribute (target : Reference) : Token.Attributes :=
  if target.title = [] then [] else [("title", .text (.ofList target.title))]

/-- The opening tag of a link. -/
def linkOpening (target : Reference) : Token :=
  { kind := .linkOpen, tag := "a", nesting := .opening,
    attrs := ("href", .text (.ofList target.url)) :: titleAttribute target }

/-- The closing tag of a link. -/
def linkClosing : Token := { kind := .linkClose, tag := "a", nesting := .closing }

/-- An image with the tokens of its label. -/
def imageToken (target : Reference) (label : List Char) (children : List Token) : Token :=
  { kind := .image, tag := "img",
    attrs := ("src", .text (.ofList target.url)) :: ("alt", .text "") :: titleAttribute target
    content := .ofList label, children := if children.isEmpty then none else some children }

/-- The tokens of an address between angle brackets. -/
def addressTokens (url shown : List Char) : List Token := [
  { linkOpening ⟨url, []⟩ with markup := "autolink", info := "auto" },
  { kind := .text, content := .ofList shown },
  { linkClosing with markup := "autolink", info := "auto" }]

/-- The run of emphasis marks at a position, unless they are plain. -/
def emphasisRun? (passage : Passage) (limit n : Nat) : Option (Char × MarkRun) :=
  match passage.chars.getD n ' ' with
  | '*' => some ('*', markRun passage.chars limit n true)
  | '_' => some ('_', markRun passage.chars limit n false)
  | '~' =>
    let run := markRun passage.chars limit n true
    if passage.extensions.strikethrough && 2 ≤ run.length then some ('~', run) else none
  | _ => none

/-- The deepest nesting of links that are read. -/
def maxDepth : Nat := 20

/-- Read the tokens between two positions. -/
def readTokens : Nat → Passage → Nat → Nat → Nat → Draft → Reading (List Token)
  | 0, _, _, _, _, draft => return draft.finish
  | fuel + 1, passage, depth, last, n, draft =>
    if last ≤ n then return draft.finish
    else
      let plain := draft.addText [passage.chars.getD n ' ']
      if maxDepth ≤ depth then readTokens fuel passage depth last (n + 1) plain
      else
        match emphasisRun? passage last n with
        | some (char, run) =>
          readTokens fuel passage depth last (n + run.length) (draft.addRun char run)
        | none => do
          match ← findPiece passage (skipPiece passage (maxDepth - depth)) last n with
          | none => readTokens fuel passage depth last (n + 1) plain
          | some (piece, next) =>
            let draft ←
              match piece with
              | .plain text => pure (draft.addText text)
              | .lineEnd => pure draft.endLine
              | .hardBreak => pure (draft.addToken { kind := .hardBreak, tag := "br" })
              | .special content source info =>
                pure (draft.addToken
                  { kind := .textSpecial, content := .ofList content, markup := .ofList source
                    info })
              | .code mark content =>
                pure (draft.addToken
                  { kind := .codeInline, tag := "code", markup := .ofList mark,
                    content := .ofList content })
              | .address url shown => pure (draft.addTokens (addressTokens url shown))
              | .html content => pure (draft.addToken (Token.inlineHtml (.ofList content)))
              | .footnote label =>
                pure (draft.addToken { kind := .footnoteReference, label := some (.ofList label) })
              | .link first stop target => do
                let label ← readTokens fuel passage (depth + 1) stop first {}
                pure (draft.addTokens (linkOpening target :: label ++ [linkClosing]))
              | .image first stop target =>
                let label := slice passage.chars first stop
                let alone := { passage with chars := label.toArray }
                let children :=
                  (readTokens fuel alone 0 label.length 0 {} (Memory.ofSize label.length)).1
                pure (draft.addToken (imageToken target label children))
            readTokens fuel passage depth last next draft

/-- The tokens of the text of a block. -/
def inlineTokens (extensions : Extensions) (definitions : Definitions) (text : List Char) :
    List Token :=
  let passage : Passage := { chars := text.toArray, extensions, definitions }
  (readTokens (text.length + 1) passage 0 text.length 0 {} (Memory.ofSize text.length)).1

end Folio.Markdown
