import Folio.Text.Blank
import Folio.Text.Search
import Folio.Token.Basic

/-!
# Typographic symbols

Plain text is improved where it imitates symbols: signs in parentheses, plus-minus, ellipses, runs
of marks, and dashes. Addresses that show themselves are left alone.
-/

namespace Folio.Markdown

open Folio.Text

/-- Signs in parentheses, case ignored, with the symbols that they stand for. -/
def signs : List (String × Char) := [
  ("(c)", '©'), ("(C)", '©'), ("(r)", '®'), ("(R)", '®'),
  ("(tm)", '™'), ("(tM)", '™'), ("(Tm)", '™'), ("(TM)", '™')]

/-- Replace signs in parentheses by symbols. -/
def replaceSigns (cs : List Char) : List Char :=
  signs.foldl (fun cs (sign, symbol) => replaceAll sign.toList [symbol] cs) cs

/-- Replace each run of characters that satisfy `p`, if it is long enough, by a text that depends on
its last character. The current run is given in reverse. -/
def replaceRuns (p : Char → Bool) (least : Nat) (new : Char → List Char) (run : List Char) :
    List Char → List Char
  | [] => ended
  | c :: cs =>
    if p c then replaceRuns p least new (c :: run) cs
    else ended ++ c :: replaceRuns p least new [] cs
where
  /-- What stands in the place of a run that has ended. -/
  ended : List Char :=
    match run with
    | [] => []
    | last :: _ => if least ≤ run.length then new last else run.reverse

/-- Whether `width` hyphens stand in front of a character that satisfies `p` or of the end of a
line. -/
def beginsWithDash (width : Nat) (p : Char → Bool) (cs : List Char) : Bool :=
  (cs.take width).length = width && (cs.take width).all (· = '-')
    && (cs[width]?).all fun c => p c || c = '\n'

/-- Replace `width` hyphens by a dash where on each side stands a character that satisfies `p` or an
end of the line. `skip` characters are passed over, and `lineStart` tells whether a line begins. -/
def replaceDashes (width : Nat) (dash : Char) (p : Char → Bool) :
    Nat → Bool → List Char → List Char
  | _, _, [] => []
  | skip + 1, _, _ :: cs => replaceDashes width dash p skip false cs
  | 0, lineStart, c :: cs =>
    if lineStart && beginsWithDash width p (c :: cs) then
      dash :: replaceDashes width dash p (width - 1) false cs
    else if p c && beginsWithDash width p cs then
      c :: dash :: replaceDashes width dash p width false cs
    else c :: replaceDashes width dash p 0 (c = '\n') cs

/-- Texts of which one has to occur before rarer symbols are looked for. -/
def rareMarks : List String := ["+-", "..", "????", "!!!!", ",,", "--"]

/-- Replace plus-minus, ellipses, runs of marks and dashes. -/
def replaceRare (cs : List Char) : List Char :=
  if rareMarks.any fun mark => contains mark.toList cs then
    let cs := replaceAll "+-".toList ['±'] cs
    let cs := replaceRuns (· = '.') 2 (fun _ => ['…']) [] cs
    let cs := replaceAll "?…".toList "?..".toList (replaceAll "!…".toList "!..".toList cs)
    let cs := replaceRuns (fun c => c = '?' || c = '!') 4 (fun c => [c, c, c]) [] cs
    let cs := replaceRuns (· = ',') 2 (fun c => [c]) [] cs
    let cs := replaceDashes 3 '—' (· ≠ '-') 0 true cs
    let cs := replaceDashes 2 '–' isBlank 0 true cs
    replaceDashes 2 '–' (fun c => c ≠ '-' && !isBlank c) 0 true cs
  else cs

/-- Whether an address that shows itself goes on behind a token. -/
def staysInAddress (inAddress : Bool) (token : Token) : Bool :=
  if token.info = "auto" then (inAddress || token.kind = .linkOpen) && token.kind ≠ .linkClose
  else inAddress

/-- Replace the symbols in plain text. -/
def replaceSymbols (inAddress : Bool) : List Token → List Token
  | [] => []
  | token :: rest =>
    if token.kind = .text && !inAddress then
      let content := .ofList (replaceRare (replaceSigns token.content.toList))
      { token with content } :: replaceSymbols inAddress rest
    else token :: replaceSymbols (staysInAddress inAddress token) rest

end Folio.Markdown
