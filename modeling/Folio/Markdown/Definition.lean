import Folio.Markdown.Opening
import Folio.Markdown.Target
import Folio.Url.Link

/-!
# Link definitions

A definition binds a label to a destination and a title. It may spread over several lines, each of
which has to be one that could continue a paragraph; lines are taken in only as they are needed.
-/

namespace Folio.Markdown

open Folio.Text

/-- The part of a definition that has been taken in, and the line that comes next. -/
structure Gathered where
  text : Array Char
  next : Nat

namespace Gathered

/-- Take in one more line, if it could continue a paragraph. -/
def more? (scope : Scope) (source : Lines) (gathered : Gathered) : Option Gathered :=
  let line := source.line gathered.next
  if scope.limit ≤ gathered.next || line.isEmpty then none
  else if scope.isCode line || line.indent < 0
      || !endsText scope source gathered.next scope.limit false then
    let text := line.content ++ if line.ended then ['\n'] else []
    some ⟨gathered.text ++ text.toArray, gathered.next + 1⟩
  else none

/-- Take in one more line if there is one. -/
def orMore (scope : Scope) (source : Lines) (gathered : Gathered) : Gathered :=
  (gathered.more? scope source).getD gathered

/-- The position of the bracket that closes the label. -/
def labelEnd? (scope : Scope) (source : Lines) : Nat → Gathered → Nat → Option (Nat × Gathered)
  | 0, _, _ => none
  | fuel + 1, gathered, n =>
    match gathered.text[n]? with
    | none | some '[' => none
    | some ']' => some (n, gathered)
    | some '\n' => labelEnd? scope source fuel (gathered.orMore scope source) (n + 1)
    | some '\\' =>
      let gathered :=
        if gathered.text[n + 1]? = some '\n' then gathered.orMore scope source else gathered
      labelEnd? scope source fuel gathered (n + 2)
    | some _ => labelEnd? scope source fuel gathered (n + 1)

/-- The first position that holds no space, tab or line break. -/
def skipBlank (scope : Scope) (source : Lines) : Nat → Gathered → Nat → Nat × Gathered
  | 0, gathered, n => (n, gathered)
  | fuel + 1, gathered, n =>
    match gathered.text[n]? with
    | some '\n' => skipBlank scope source fuel (gathered.orMore scope source) (n + 1)
    | some c =>
      if isSpaceOrTab c then skipBlank scope source fuel gathered (n + 1) else (n, gathered)
    | none => (n, gathered)

/-- Go on reading a title over further lines. -/
def finishTitle (scope : Scope) (source : Lines) : Nat → Gathered → TitleRead → TitleRead × Gathered
  | 0, gathered, title => (title, gathered)
  | fuel + 1, gathered, title =>
    match title with
    | .unfinished mark text =>
      match gathered.more? scope source with
      | none => (title, gathered)
      | some longer =>
        finishTitle scope source fuel longer
          (resumeTitle mark text longer.text gathered.text.size longer.text.size)
    | _ => (title, gathered)

/-- Whether nothing but spaces and tabs stands between a position and the end of its line. -/
def restIsBlank (gathered : Gathered) (n : Nat) : Bool :=
  let last := skipWhile isSpaceOrTab gathered.text gathered.text.size n
  gathered.text[last]?.all (· = '\n')

end Gathered

/-- Read the definition that begins on a line: its key, where it leads to, and the line behind it.
-/
def definition? (scope : Scope) (source : Lines) (n : Nat) : Option (List Char × Reference × Nat) :=
  let line := source.line n
  if scope.isCode line || line.content.head? ≠ some '[' then none
  else
    let fuel := source.lines.foldl (fun size line => size + line.text.length + 1) 1
    let text := line.content ++ if line.ended then ['\n'] else []
    match Gathered.labelEnd? scope source fuel ⟨text.toArray, n + 1⟩ 1 with
    | none => none
    | some (labelEnd, gathered) =>
      if gathered.text[labelEnd + 1]? ≠ some ':' then none
      else
        let (start, gathered) := gathered.skipBlank scope source fuel (labelEnd + 2)
        match readDestination? gathered.text start gathered.text.size with
        | none => none
        | some destination =>
          let url := Url.normalizeLink destination.text
          let key := labelKey (slice gathered.text 1 labelEnd)
          if !Url.isAllowed url || key = [] then none
          else
            let plain := gathered
            let (titleStart, begun) := gathered.skipBlank scope source fuel destination.next
            let (title, gathered) :=
              begun.finishTitle scope source fuel
                (readTitle begun.text titleStart begun.text.size)
            let apart := titleStart ≠ destination.next || begun.next < gathered.next
            let titled? :=
              match title with
              | .done title =>
                if apart && gathered.restIsBlank title.next then some title.text else none
              | _ => none
            let emptyTitle :=
              match title with
              | .done title => apart && title.text = []
              | _ => false
            match titled? with
            | some title => some (key, ⟨url, title⟩, gathered.next)
            | none =>
              if !emptyTitle && gathered.restIsBlank destination.next then
                some (key, ⟨url, []⟩, plain.next)
              else none

end Folio.Markdown
