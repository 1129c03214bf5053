import Folio.Text.Punctuation
import Folio.Token.Basic

/-!
# Emphasis

Runs of `*`, `_` and `~` may open or close emphasis, depending on the characters around them. While
a text is read each mark stands as a text token of its own; afterwards closing marks are paired with
the nearest fitting opening ones, and the tokens of paired marks are turned into tags.
-/

namespace Folio.Markdown

open Folio.Text

/-- White space as flanking rules see it. -/
def isFlankingSpace (c : Char) : Bool :=
  let n := c.toNat
  (0x2000 ≤ n && n ≤ 0x200a) || (0x09 ≤ n && n ≤ 0x0d)
    || [0x20, 0xa0, 0x1680, 0x202f, 0x205f, 0x3000].contains n

/-- A run of marks: its length, and whether it can open and close emphasis. -/
structure MarkRun where
  length : Nat
  opens : Bool
  closes : Bool

/-- The run of marks at a position, below a limit. Marks that may stand inside a word open and close
there too. -/
def markRun (source : Array Char) (limit first : Nat) (insideWord : Bool) : MarkRun :=
  let mark := source.getD first ' '
  let length := ((source.extract first limit).toList.takeWhile (· = mark)).length
  let before := if first = 0 then ' ' else source.getD (first - 1) ' '
  let behind := if first + length < limit then source.getD (first + length) ' ' else ' '
  let spaceBefore := isFlankingSpace before
  let spaceBehind := isFlankingSpace behind
  let punctuationBefore := isPunctuation before
  let punctuationBehind := isPunctuation behind
  let left := !(spaceBehind || (punctuationBehind && !(spaceBefore || punctuationBefore)))
  let right := !(spaceBefore || (punctuationBefore && !(spaceBehind || punctuationBehind)))
  if insideWord then ⟨length, left, right⟩
  else ⟨length, left && (!right || punctuationBefore), right && (!left || punctuationBehind)⟩

/-- A mark among the tokens of a text. -/
structure Mark where
  char : Char
  /-- The length of its run; zero if the lengths of runs do not matter. -/
  length : Nat
  /-- The place of its token. -/
  token : Nat
  opens : Bool
  closes : Bool
  /-- The mark that closes what this one opens. -/
  partner : Option Nat := none
  deriving Repr, Inhabited

/-- The state of pairing. -/
structure Pairing where
  marks : Array Mark
  /-- How many marks before each one can be skipped in the search for an opening one. -/
  jumps : Array Nat := #[]
  /-- The first mark of the current run. -/
  header : Nat := 0
  /-- The token of the last mark, unless a new run has to begin. -/
  previous : Option Nat := none
  /-- Below these marks no opening one will be found, by kind of closing mark. -/
  bottoms : List ((Char × Nat) × Int) := []

/-- Whether the lengths of two runs forbid pairing their marks: if one of them can both open and
close, the sum may be a multiple of three only if both lengths are. -/
def clashes (opener closer : Mark) : Bool :=
  (opener.closes || closer.opens) && (opener.length + closer.length) % 3 = 0
    && (opener.length % 3 ≠ 0 || closer.length % 3 ≠ 0)

/-- The nearest mark that opens what a mark closes. -/
def findOpener (pairing : Pairing) (closer : Mark) (bottom : Int) : Nat → Int → Option Nat
  | 0, _ => none
  | count + 1, n =>
    if n ≤ bottom ∨ n < 0 then none
    else
      let opener := pairing.marks.getD n.toNat default
      if opener.char = closer.char && opener.opens && opener.partner.isNone
          && !clashes opener closer then
        some n.toNat
      else findOpener pairing closer bottom count (n - (pairing.jumps.getD n.toNat 0 + 1))

/-- Look for the partner of one mark. -/
def pairMark (pairing : Pairing) (n : Nat) : Pairing :=
  let closer := pairing.marks.getD n default
  let header :=
    if (pairing.marks.getD pairing.header default).char ≠ closer.char
        || pairing.previous.map (· + 1) ≠ some closer.token then n
    else pairing.header
  let pairing :=
    { pairing with jumps := pairing.jumps.push 0, header, previous := some closer.token }
  if closer.closes then
    let kind := (closer.char, (if closer.opens then 3 else 0) + closer.length % 3)
    let bottom := (pairing.bottoms.lookup kind).getD (-1)
    let start : Int := header - (pairing.jumps.getD header 0 + 1 : Nat)
    match findOpener pairing closer bottom (n + 1) start with
    | none => { pairing with bottoms := (kind, start) :: pairing.bottoms }
    | some m =>
      let last :=
        if 0 < m && !(pairing.marks.getD (m - 1) default).opens then
          pairing.jumps.getD (m - 1) 0 + 1
        else 0
      { pairing with
          jumps := (pairing.jumps.setIfInBounds n (n - m + last)).setIfInBounds m last
          marks :=
            (pairing.marks.modify n fun mark => { mark with opens := false }).modify m fun mark =>
              { mark with closes := false, partner := some n }
          previous := none }
  else pairing

/-- Pair the marks of a text. -/
def pairMarks (marks : Array Mark) : Array Mark :=
  ((List.range marks.size).foldl pairMark { marks }).marks

/-- Turn a text token into a tag. -/
def asTag (kind : Token.Kind) (tag : String) (nesting : Token.Nesting) (markup : String)
    (token : Token) : Token :=
  { token with kind, tag, nesting, markup, content := "" }

/-- The places of single marks that stand before the closing marks of deletions. -/
def loneMarks (tokens : Array Token) (marks : Array Mark) : List Nat :=
  marks.toList.filterMap fun mark =>
    match if mark.char = '~' then mark.partner else none with
    | none => none
    | some partner =>
      let place := (marks.getD partner default).token - 1
      let token := tokens.getD place default
      if token.kind = .text && token.content = "~" then some place else none

/-- Move a single mark behind the closing tags that follow it. -/
def moveLoneMark (tokens : Array Token) (place : Nat) : Array Token :=
  let behind := (tokens.toList.drop (place + 1)).takeWhile (·.kind = .strikeClose)
  tokens.swapIfInBounds place (place + behind.length)

/-- Turn paired `~` marks into the tags of deletions. A single mark of an odd run goes behind the
deletion that it stands at the end of. -/
def markDeletions (tokens : Array Token) (marks : Array Mark) : Array Token :=
  let tagged := marks.foldl (fun tokens mark =>
    match if mark.char = '~' then mark.partner else none with
    | none => tokens
    | some partner =>
      (tokens.modify mark.token (asTag .strikeOpen "s" .opening "~~")).modify
        (marks.getD partner default).token (asTag .strikeClose "s" .closing "~~")) tokens
  (loneMarks tagged marks).reverse.foldl moveLoneMark tagged

/-- Turn paired `*` and `_` marks into tags, the last opening mark first. Two marks that enclose
neighbours of their own kind make strong emphasis. -/
def markEmphasis (marks : Array Mark) : Nat → Array Token → Array Token
  | 0, tokens => tokens
  | n + 1, tokens =>
    let opener := marks.getD n default
    match if opener.char = '*' ∨ opener.char = '_' then opener.partner else none with
    | none => markEmphasis marks n tokens
    | some partner =>
      let closer := marks.getD partner default
      let outer := marks.getD (n - 1) default
      let outerCloser := marks.getD (partner + 1) default
      let strong :=
        0 < n && outer.partner = some (partner + 1) && outer.char = opener.char
          && outer.token + 1 = opener.token && outerCloser.token = closer.token + 1
      if strong then
        let markup := "".pushn opener.char 2
        let tokens := tokens.modify opener.token (asTag .strongOpen "strong" .opening markup)
        let tokens := tokens.modify closer.token (asTag .strongClose "strong" .closing markup)
        let tokens := tokens.modify outer.token fun token => { token with content := "" }
        let tokens := tokens.modify outerCloser.token fun token => { token with content := "" }
        match n with
        | 0 => tokens
        | n + 1 => markEmphasis marks n tokens
      else
        let markup := opener.char.toString
        let tokens := tokens.modify opener.token (asTag .emphasisOpen "em" .opening markup)
        let tokens := tokens.modify closer.token (asTag .emphasisClose "em" .closing markup)
        markEmphasis marks n tokens

/-- Join neighbouring text tokens; the last one of a row keeps the rest of its fields. -/
def joinFragments : List Token → List Token
  | [] => []
  | token :: rest =>
    match joinFragments rest with
    | next :: others =>
      if token.kind = .text && next.kind = .text then
        { next with content := token.content ++ next.content } :: others
      else token :: next :: others
    | [] => [token]

/-- The tokens of a text with its marks turned into tags. -/
def resolveMarks (tokens : Array Token) (marks : Array Mark) : List Token :=
  let marks := pairMarks marks
  joinFragments (markEmphasis marks marks.size (markDeletions tokens marks)).toList

end Folio.Markdown
