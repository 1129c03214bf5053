import Folio.Markdown.Definition

/-!
# Block structure

A document is read block by block. Leaf blocks are read off the lines; a container cuts its marks
off the lines and has its inside read by the same reader, which therefore comes as an argument.
Nesting bounds how often that happens, so reading is total.
-/

namespace Folio.Markdown

open Folio.Text

/-- What reading some lines gives. -/
structure Outcome where
  blocks : List Block
  /-- The line behind what has been read. -/
  next : Nat
  /-- Whether no empty line lies before the last block. -/
  tight : Bool
  definitions : Definitions
  deriving Inhabited

/-- Reads the blocks of a scope from one line up to another. -/
abbrev Reader := Scope → Lines → Nat → Nat → Definitions → Outcome

/-- What reading one block gives; a definition is no block. -/
structure Step where
  block : Option Block
  next : Nat
  definitions : Definitions

/-- The first line from `n` on, up to `last`, at which a condition fails. -/
def linesWhile (p : Nat → Bool) (n last : Nat) : Nat :=
  go (last - n) n
where
  /-- Look at no more than `count` lines. -/
  go : Nat → Nat → Nat
    | 0, n => n
    | count + 1, n => if p n then go count (n + 1) else n

/-- The last line of indented code, with one added. Empty lines count only if code follows. -/
def codeEnd (scope : Scope) (source : Lines) (last : Nat) : Nat → Nat → Nat → Nat
  | 0, _, reached => reached
  | count + 1, n, reached =>
    if last ≤ n then reached
    else if source.isEmpty n then codeEnd scope source last count (n + 1) reached
    else if scope.isCode (source.line n) then codeEnd scope source last count (n + 1) (n + 1)
    else reached

/-- Read indented code. -/
def readCode (scope : Scope) (source : Lines) (n last : Nat) : Block × Nat :=
  let next := codeEnd scope source last (last - n) (n + 1) (n + 1)
  (.code (.ofList (source.slice n next (4 + scope.indent) false ++ ['\n'])), next)

/-- Where a fenced code block ends: the line of its closing mark or the line that is not part of it,
and whether it is closed. -/
def fenceEnd (scope : Scope) (source : Lines) (start : FenceStart) (last : Nat) :
    Nat → Nat → Nat × Bool
  | 0, n => (n, false)
  | count + 1, n =>
    let line := source.line n
    if last ≤ n then (n, false)
    else if line.isEmpty then
      if line.ended then fenceEnd scope source start last count (n + 1) else (n, false)
    else if scope.excludes line then (n, false)
    else if !scope.isCode line && start.isClosedBy line.content then (n, true)
    else fenceEnd scope source start last count (n + 1)

/-- Read a fenced code block. -/
def readFence (scope : Scope) (source : Lines) (start : FenceStart) (n last : Nat) : Block × Nat :=
  let (stop, closed) := fenceEnd scope source start last (last - n) (n + 1)
  let content := source.slice (n + 1) stop (source.line n).indent.toNat true
  (.fence ("".pushn start.mark start.length) (.ofList start.info) (.ofList content),
    if closed then stop + 1 else stop)

/-- Where a block of raw HTML ends. An empty line ends it only if that is how it ends, however far
to the left the line begins. -/
def htmlEnd (scope : Scope) (source : Lines) (ends : HtmlEnd) (last : Nat) : Nat → Nat → Nat
  | 0, n => n
  | count + 1, n =>
    let line := source.line n
    if last ≤ n || (scope.excludes line && !line.isEmpty) then n
    else if ends.isMetBy line.content then if line.content = [] then n else n + 1
    else htmlEnd scope source ends last count (n + 1)

/-- Read raw HTML. -/
def readHtml (scope : Scope) (source : Lines) (start : HtmlStart) (n last : Nat) : Block × Nat :=
  let next :=
    if start.ends.isMetBy (source.line n).content then n + 1
    else htmlEnd scope source start.ends last (last - n) (n + 1)
  (.html (.ofList (source.slice n next scope.indent true)), next)

/-- The most cells that short rows may be filled up with. -/
def maxFilledCells : Int := 0x10000

/-- Read the rows of a table and the line behind them. -/
def readRows (scope : Scope) (source : Lines) (columns last : Nat) :
    Nat → Nat → Int → List (List String) × Nat
  | 0, n, _ => ([], n)
  | count + 1, n, filled =>
    let line := source.line n
    if last ≤ n || scope.excludes line || endsContainer scope line false
        || trim line.content = [] || scope.isCode line then ([], n)
    else
      let cells := rowCells line.content
      let filled := filled + ((columns : Int) - cells.length)
      if maxFilledCells < filled then ([], n)
      else
        let (rows, next) := readRows scope source columns last count (n + 1) filled
        (cells.map (fun cell => .ofList (trim cell)) :: rows, next)

/-- Read a table. -/
def readTable (scope : Scope) (source : Lines) (alignments : List Alignment)
    (head : List (List Char)) (n last : Nat) : Block × Nat :=
  let (rows, next) := readRows scope source alignments.length last (last - n) (n + 2) 0
  (.table alignments (head.map fun cell => .ofList (trim cell)) rows, next)

/-- The text of a paragraph. -/
def paragraphText (scope : Scope) (source : Lines) (n next : Nat) : String :=
  .ofList (trim (source.slice n next scope.indent false))

/-- Whether a line goes on with the paragraph before it. -/
def continuesParagraph (scope : Scope) (source : Lines) (last n : Nat) : Bool :=
  let line := source.line n
  !line.isEmpty &&
    (scope.isCode line || line.indent < 0 || !endsText scope source n last true)

/-- Read a paragraph. -/
def readParagraph (scope : Scope) (source : Lines) (n : Nat) : Block × Nat :=
  let next := linesWhile (continuesParagraph scope source scope.limit) (n + 1) scope.limit
  (.paragraph (paragraphText scope source n next), next)

/-- The line that makes the text before it a heading, with the level and the mark. -/
def underlineBelow? (scope : Scope) (source : Lines) (last : Nat) :
    Nat → Nat → Option (Nat × Nat × Char)
  | 0, _ => none
  | count + 1, n =>
    let line := source.line n
    if last ≤ n || line.isEmpty then none
    else
      let below? :=
        if scope.isCode line || scope.excludes line then none else underline? line.content
      match below? with
      | some (level, mark) => some (n, level, mark)
      | none =>
        if continuesParagraph scope source last n then
          underlineBelow? scope source last count (n + 1)
        else none

/-! ## Containers -/

/-- The line inside a quote, if the line has the mark of one. A space or a column of a tab behind
the mark belongs to it. -/
def Line.unquote? (line : Line) : Option Line :=
  match line.content with
  | '>' :: cs =>
    let start := line.indent + 1
    let inside (start : Int) (text : List Char) (extra spaces : Nat) : Line :=
      let (column, shift) := Line.measure (line.base + extra) start text
      { text, shift, indent := column - start, base := (line.indent + 1).toNat + spaces,
        ended := line.ended }
    match cs with
    | ' ' :: rest => some (inside (start + 1) rest 0 1)
    | '\t' :: rest =>
      if (line.base + start) % 4 = 3 then some (inside (start + 1) rest 0 1)
      else some (inside start cs 1 1)
    | _ => some (inside start cs 0 0)
  | _ => none

/-- The lines of a quote with the marks cut off. -/
structure Quoted where
  source : Lines
  /-- The line behind the quote. -/
  next : Nat
  /-- Whether the quote ends because another block begins, so that no paragraph in it reaches on. -/
  cut : Bool

/-- Cut the marks off the lines of a quote. A line without one can still continue a paragraph, as
long as the line before it is not empty and no other block begins with it. -/
def quoteLines (scope : Scope) (last : Nat) : Nat → Lines → Nat → Bool → Quoted
  | 0, source, n, _ => ⟨source, n, false⟩
  | count + 1, source, n, empty =>
    let line := source.line n
    if last ≤ n || line.isEmpty then ⟨source, n, false⟩
    else
      match if scope.excludes line then none else line.unquote? with
      | some inner => quoteLines scope last count (source.set n inner) (n + 1) inner.isEmpty
      | none =>
        if empty then ⟨source, n, false⟩
        else if endsContainer scope line false then
          ⟨source.set n { line with indent := line.indent - scope.indent }, n, true⟩
        else quoteLines scope last count (source.set n { line with indent := -1 }) (n + 1) false

/-- Read a quote. -/
def readQuote (inner : Reader) (scope : Scope) (source : Lines) (first : Line) (n last : Nat)
    (definitions : Definitions) : Step :=
  let quoted := quoteLines scope last (last - n) (source.set n first) (n + 1) first.isEmpty
  let limit := if quoted.cut then quoted.next else scope.limit
  let outcome :=
    inner { scope with limit, indent := 0, level := scope.level + 1 } quoted.source n quoted.next
      definitions
  ⟨some (.quote outcome.blocks), outcome.next, outcome.definitions⟩

/-- Read a footnote definition. -/
def readFootnote (inner : Reader) (scope : Scope) (source : Lines) (label rest : List Char)
    (n last : Nat) (definitions : Definitions) : Step :=
  let line := source.line n
  let start := line.indent + (label.length + 4)
  let (column, shift) := Line.measure 0 start rest
  let edge := scope.indent + 4
  let width := column - start
  let indent := if width < edge then width + edge else width
  let definitions := { definitions with footnotes := definitions.footnotes ++ [label] }
  let outcome :=
    inner { scope with indent := edge, level := scope.level + 1 }
      (source.set n { line with text := rest, shift, indent }) n last definitions
  ⟨some (.footnote (.ofList label) outcome.blocks), outcome.next, outcome.definitions⟩

/-- The items of a list. -/
structure Items where
  items : List Item
  next : Nat
  tight : Bool
  definitions : Definitions

/-- Read an item with a mark. Its content has to reach the column of its first text, or the column
behind the mark if that text is far away or missing. -/
def readItem (inner : Reader) (scope : Scope) (source : Lines) (mark : ItemMark) (n last : Nat)
    (definitions : Definitions) : Outcome :=
  let line := source.line n
  let start := line.indent + mark.length
  let (column, count) := Line.measure line.base start mark.rest
  let empty := count = mark.rest.length
  let width := if empty || 4 < column - start then 1 else column - start
  if empty && source.isEmpty (n + 1) then ⟨[], min (n + 2) last, true, definitions⟩
  else
    inner
      { scope with
          indent := (start + width).toNat, listIndent := some scope.indent
          level := scope.level + 2 }
      (source.set n { line with shift := line.shift + mark.length + count, indent := column })
      n last definitions

/-- Read the items of a list from one with a mark on; `spaced` tells whether an empty line ends the
item before it. -/
def readItems (inner : Reader) (scope : Scope) (source : Lines) (last : Nat) :
    Nat → ItemMark → Nat → Bool → Definitions → Items
  | 0, _, n, _, definitions => ⟨[], n, true, definitions⟩
  | count + 1, mark, n, spaced, definitions =>
    let outcome := readItem inner scope source mark n last definitions
    let item := Item.mk (.ofList mark.digits) outcome.blocks
    let tight := outcome.tight && !spaced
    let next := outcome.next
    let line := source.line next
    let following :=
      if last ≤ next || scope.excludes line || scope.isCode line || endsList scope line then none
      else
        (itemMark? line.content).filter fun other =>
          other.isOrdered = mark.isOrdered && other.mark = mark.mark
    match following with
    | none => ⟨[item], next, tight, outcome.definitions⟩
    | some other =>
      let spaced := n + 1 < next && source.isEmpty (next - 1)
      let rest := readItems inner scope source last count other next spaced outcome.definitions
      { rest with items := item :: rest.items, tight := tight && rest.tight }

/-- Read a list. -/
def readList (inner : Reader) (scope : Scope) (source : Lines) (mark : ItemMark) (n last : Nat)
    (definitions : Definitions) : Step :=
  let items := readItems inner scope source last (last - n) mark n false definitions
  let kind :=
    if mark.isOrdered then ListKind.ordered mark.mark mark.number else ListKind.bullet mark.mark
  ⟨some (.list kind items.tight items.items), items.next, items.definitions⟩

/-! ## Reading -/

/-- Read a heading above an underline, or a paragraph. -/
def readText (scope : Scope) (source : Lines) (n last : Nat) : Block × Nat :=
  match underlineBelow? scope source last (last - n) (n + 1) with
  | some (below, level, mark) =>
    (.heading level mark.toString (paragraphText scope source n below), below + 1)
  | none => readParagraph scope source n

/-- Read raw HTML, a heading or text. -/
def readPlain (scope : Scope) (source : Lines) (n last : Nat) : Block × Nat :=
  let content := (source.line n).content
  match htmlStart? content with
  | some start => readHtml scope source start n last
  | none =>
    match heading? content with
    | some (level, text) => (.heading level ("".pushn '#' level) (.ofList text), n + 1)
    | none => readText scope source n last

/-- Read a footnote definition, a link definition or a block without marks on each line. -/
def readUnmarked (inner : Reader) (scope : Scope) (source : Lines) (n last : Nat)
    (definitions : Definitions) : Step :=
  let footnote? :=
    if scope.extensions.footnotes then footnoteStart? (source.line n).content else none
  match footnote? with
  | some (label, rest) => readFootnote inner scope source label rest n last definitions
  | none =>
    match definition? scope source n with
    | some (key, reference, next) => ⟨none, next, definitions.define key reference⟩
    | none =>
      let (block, next) := readPlain scope source n last
      ⟨some block, next, definitions⟩

/-- Read a block that begins on a line. -/
def readBlock (inner : Reader) (scope : Scope) (source : Lines) (n last : Nat)
    (definitions : Definitions) : Step :=
  let line := source.line n
  let leaf (read : Block × Nat) : Step := ⟨some read.1, read.2, definitions⟩
  match tableStart? scope source n last with
  | some (alignments, head) => leaf (readTable scope source alignments head n last)
  | none =>
    if scope.isCode line then leaf (readCode scope source n last)
    else
      match fenceStart? line.content with
      | some start => leaf (readFence scope source start n last)
      | none =>
        match line.unquote? with
        | some first => readQuote inner scope source first n last definitions
        | none =>
          match rule? line.content with
          | some (mark, count) => leaf (.rule ("".pushn mark (count + 1)), n + 1)
          | none =>
            match listStart? scope line false with
            | some mark => readList inner scope source mark n last definitions
            | none => readUnmarked inner scope source n last definitions

/-- Read the blocks of a scope one after the other; `spaced` tells whether an empty line has come
before. -/
def readWithin (inner : Reader) (scope : Scope) (source : Lines) (last : Nat) :
    Nat → Nat → Bool → Bool → Definitions → Outcome
  | 0, n, _, tight, definitions => ⟨[], n, tight, definitions⟩
  | count + 1, n, spaced, tight, definitions =>
    if last ≤ n then ⟨[], n, tight, definitions⟩
    else
      let n := source.skipEmpty scope.limit n
      if last ≤ n || scope.excludes (source.line n) then ⟨[], n, tight, definitions⟩
      else if maxNesting ≤ scope.level then ⟨[], last, tight, definitions⟩
      else
        let step := readBlock inner scope source n last definitions
        let next := step.next
        let reaches := next < last && source.isEmpty next
        let behind := next ≤ last && source.isEmpty (next - 1)
        let rest :=
          readWithin inner scope source last count (if reaches then next + 1 else next)
            (spaced || behind || reaches) (!spaced) step.definitions
        { rest with blocks := step.block.toList ++ rest.blocks }

/-- The reader for scopes that nest no deeper than `room`. -/
def readBlocks : Nat → Reader
  | 0 => fun _ _ _ last definitions => ⟨[], last, true, definitions⟩
  | room + 1 => fun scope source n last definitions =>
    readWithin (readBlocks room) scope source last (last - n + 1) n false true definitions

/-- Read the blocks of a document and what it defines. -/
def readDocument (extensions : Extensions) (text : List Char) : List Block × Definitions :=
  let lines := linesOf (normalizeSource text)
  let outcome :=
    readBlocks (maxNesting + 1) { extensions, limit := lines.length } ⟨lines.toArray⟩ 0 lines.length
      {}
  (outcome.blocks, outcome.definitions)

end Folio.Markdown
