import Folio.Yaml.Scalar
import Folio.Yaml.Tag

/-!
# Lexemes of a text

The lexemes are read from left to right. Outside brackets the indentation opens and closes block
collections. Whether a node is the key of an entry shows only at the colon behind it, so every node
that may be one is remembered, and the lexemes of the key are put in front of it when the colon
comes.
-/

namespace Folio.Yaml

/-- A place at which a key may begin. -/
structure Candidate where
  /-- How many brackets are open there. -/
  level : Nat
  /-- The number of lexemes before it. -/
  place : Nat
  /-- Whether nothing but a key can stand there. -/
  required : Bool
  index : Nat
  line : Nat
  column : Nat

/-- How far a text has been read. -/
structure Scanner where
  cursor : Cursor
  lexemes : Array Lexeme := #[]
  /-- The brackets that are open, the innermost first. -/
  brackets : List Char := []
  /-- The column of the innermost block collection, and those of the ones around it. -/
  indent : Int := -1
  outer : List Int := []
  /-- Whether a key may begin. -/
  keyAllowed : Bool := true
  candidates : List Candidate := []
  /-- Whether the document is of version 1.1. -/
  legacy : Bool := false
  done : Bool := false

namespace Scanner

/-- Whether brackets are open. -/
def inFlow (scanner : Scanner) : Bool := !scanner.brackets.isEmpty

/-- How many brackets are open. -/
def level (scanner : Scanner) : Nat := scanner.brackets.length

/-- Add a lexeme. -/
def add (scanner : Scanner) (lexeme : Lexeme) : Scanner :=
  { scanner with lexemes := scanner.lexemes.push lexeme }

/-- Add a lexeme of some characters. -/
def addHere (scanner : Scanner) (lexeme : Lexeme) (length : Nat) : Scanner :=
  { scanner.add lexeme with cursor := scanner.cursor.skip length }

/-! ## Keys -/

/-- Forget candidates that a key can no longer begin at: a key stands on one line and is no longer
than 1024 characters. -/
def dropStale (scanner : Scanner) : Except Problem Scanner :=
  let cursor := scanner.cursor
  let stale (candidate : Candidate) : Bool :=
    candidate.line ≠ cursor.line || candidate.index + 1024 < cursor.index
  if scanner.candidates.any fun candidate => stale candidate && candidate.required then
    .error .badLexeme
  else .ok { scanner with candidates := scanner.candidates.filter (!stale ·) }

/-- Forget the candidate between the innermost brackets. -/
def dropCandidate (scanner : Scanner) : Except Problem Scanner :=
  let here (candidate : Candidate) : Bool := candidate.level = scanner.level
  if scanner.candidates.any fun candidate => here candidate && candidate.required then
    .error .badLexeme
  else .ok { scanner with candidates := scanner.candidates.filter (!here ·) }

/-- Remember that a key may begin here. -/
def addCandidate (scanner : Scanner) : Except Problem Scanner :=
  if !scanner.keyAllowed then .ok scanner
  else
    scanner.dropCandidate.map fun scanner =>
      let cursor := scanner.cursor
      let candidate : Candidate :=
        { level := scanner.level, place := scanner.lexemes.size
          required := !scanner.inFlow && scanner.indent = cursor.column
          index := cursor.index, line := cursor.line, column := cursor.column }
      { scanner with candidates := candidate :: scanner.candidates }

/-! ## Indentation -/

/-- Close the block collections that begin behind a column. -/
def closeBlocks (column : Int) (scanner : Scanner) : Scanner :=
  if scanner.inFlow then scanner else go (scanner.outer.length + 1) scanner
where
  /-- Close no more than `count` collections. -/
  go : Nat → Scanner → Scanner
    | 0, scanner => scanner
    | count + 1, scanner =>
      if scanner.indent ≤ column then scanner
      else
        go count { scanner.add .blockEnd with
          indent := scanner.outer.headD (-1), outer := scanner.outer.drop 1 }

/-- Put a lexeme in front of the one with a number. -/
def insert (scanner : Scanner) (place : Nat) (lexeme : Lexeme) : Scanner :=
  { scanner with lexemes := scanner.lexemes.insertIdxIfInBounds place lexeme }

/-- Open a block collection at a column, unless the innermost one begins there. Its lexeme is put in
front of the one with a number. -/
def openBlock (scanner : Scanner) (lexeme : Lexeme) (column place : Nat) : Scanner :=
  if scanner.indent < column then
    { scanner.insert place lexeme with
        indent := column, outer := scanner.indent :: scanner.outer }
  else scanner

/-! ## Reading one lexeme -/

/-- Skip spaces, line breaks and comments; between brackets also tabs. -/
def skipBlank : Nat → Scanner → Scanner
  | 0, scanner => scanner
  | fuel + 1, scanner =>
    let cursor := scanner.cursor.skipWhile fun c => c = ' ' || (scanner.inFlow && c = '\t')
    let cursor := if cursor.peek = '#' then cursor.skipWhile (!endsComment ·) else cursor
    match cursor.lineBreak? with
    | none => { scanner with cursor }
    | some (_, cursor) =>
      skipBlank fuel { scanner with cursor, keyAllowed := scanner.keyAllowed || !scanner.inFlow }

/-- A lexeme that ends all block collections. -/
def addDocumentLexeme (scanner : Scanner) (lexeme : Lexeme) (length : Nat) :
    Except Problem Scanner :=
  (scanner.closeBlocks (-1)).dropCandidate.map fun scanner =>
    { scanner.addHere lexeme length with keyAllowed := false }

/-- The end of the text. -/
def addEnd (scanner : Scanner) : Except Problem Scanner :=
  (scanner.closeBlocks (-1)).dropCandidate.map fun scanner => { scanner with done := true }

/-- A directive. -/
def addDirective (scanner : Scanner) : Except Problem Scanner := do
  let scanner ← (scanner.closeBlocks (-1)).dropCandidate
  let (directive, cursor) ← readDirective scanner.legacy scanner.cursor.next
  let legacy :=
    match directive with
    | .version major minor => major = 1 && minor = 1
    | _ => scanner.legacy
  return { scanner.add (.directive directive) with cursor, legacy, keyAllowed := false }

/-- An opening bracket. -/
def openBracket (scanner : Scanner) (bracket : Char) (lexeme : Lexeme) : Except Problem Scanner :=
  scanner.addCandidate.map fun scanner =>
    { scanner.addHere lexeme 1 with
        brackets := bracket :: scanner.brackets, keyAllowed := true }

/-- A closing bracket. -/
def closeBracket (scanner : Scanner) (lexeme : Lexeme) : Except Problem Scanner :=
  scanner.dropCandidate.map fun scanner =>
    { scanner.addHere lexeme 1 with
        brackets := scanner.brackets.drop 1, keyAllowed := false }

/-- A comma between brackets. -/
def addComma (scanner : Scanner) : Except Problem Scanner :=
  scanner.dropCandidate.map fun scanner => { scanner.addHere .comma 1 with keyAllowed := true }

/-- The mark of an entry of a block sequence. -/
def addEntry (scanner : Scanner) : Except Problem Scanner :=
  if !scanner.inFlow && !scanner.keyAllowed then .error .badLexeme
  else
    let scanner :=
      if scanner.inFlow then scanner
      else scanner.openBlock .blockSequence scanner.cursor.column scanner.lexemes.size
    scanner.dropCandidate.map fun scanner => { scanner.addHere .entry 1 with keyAllowed := true }

/-- The mark of a key. -/
def addKey (scanner : Scanner) : Except Problem Scanner :=
  if !scanner.inFlow && !scanner.keyAllowed then .error .badLexeme
  else
    let scanner :=
      if scanner.inFlow then scanner
      else scanner.openBlock .blockMapping scanner.cursor.column scanner.lexemes.size
    scanner.dropCandidate.map fun scanner =>
      { scanner.addHere .key 1 with keyAllowed := !scanner.inFlow }

/-- The mark of a value; the node before it becomes a key if it may be one. -/
def addValue (scanner : Scanner) : Except Problem Scanner :=
  match scanner.candidates.find? (·.level = scanner.level) with
  | some candidate =>
    let scanner := scanner.insert candidate.place .key
    let scanner :=
      if scanner.inFlow then scanner
      else scanner.openBlock .blockMapping candidate.column candidate.place
    .ok { scanner.addHere .value 1 with
      keyAllowed := false
      candidates := scanner.candidates.filter (·.level ≠ scanner.level) }
  | none =>
    if !scanner.inFlow && !scanner.keyAllowed then .error .badLexeme
    else
      let scanner :=
        if scanner.inFlow then scanner
        else scanner.openBlock .blockMapping scanner.cursor.column scanner.lexemes.size
      scanner.dropCandidate.map fun scanner =>
        { scanner.addHere .value 1 with keyAllowed := !scanner.inFlow }

/-- A lexeme at which a key may begin. -/
def addNode (scanner : Scanner) (read : Scanner → Except Problem (Lexeme × Cursor)) :
    Except Problem Scanner := do
  let scanner ← scanner.addCandidate
  let (lexeme, cursor) ← read scanner
  return { scanner.add lexeme with cursor, keyAllowed := false }

/-- A quoted scalar. -/
def addQuoted (scanner : Scanner) (quote : Char) : Except Problem Scanner :=
  scanner.addNode fun scanner =>
    let cursor := scanner.cursor.next
    (readQuoted quote (cursor.rest.length + 1) cursor).map fun (text, cursor) =>
      (.scalar text false, cursor)

/-- A plain scalar. -/
def addPlain (scanner : Scanner) : Except Problem Scanner :=
  scanner.addCandidate.map fun scanner =>
    let cursor := scanner.cursor
    let read :=
      readPlain scanner.inFlow scanner.legacy (scanner.indent + 1) (cursor.rest.length + 1) [] false
        cursor
    { scanner.add (.scalar (codePoints read.text) true) with
        cursor := read.cursor, keyAllowed := read.keyAllowed }

/-- A block scalar. -/
def addBlockScalar (scanner : Scanner) (folded : Bool) : Except Problem Scanner := do
  let scanner ← scanner.dropCandidate
  let (text, cursor) ← readBlockScalar folded scanner.indent scanner.cursor.next
  return { scanner.add (.scalar (codePoints text) false) with cursor, keyAllowed := true }

/-- Whether the colon here marks a value. Between brackets a colon may begin a plain scalar;
`queued` tells whether the lexemes behind the first candidate are still open to change. -/
def isValueMark (scanner : Scanner) (queued : Bool) : Bool :=
  let gapBehind := isGap (scanner.cursor.peekAt 1)
  match scanner.brackets with
  | [] => gapBehind
  | bracket :: _ =>
    if scanner.legacy then true
    else if bracket = '[' then gapBehind
    else if queued && scanner.lexemes.back? = some .value then gapBehind
    else true

/-- Whether a plain scalar can begin here. -/
def beginsPlain (scanner : Scanner) : Bool :=
  let c := scanner.cursor.peek
  let behind := scanner.cursor.peekAt 1
  let mark := "-?:,[]\x7b\x7d#&*!|>\x27\x22%@\x60".toList.contains c
  if !mark && !isGap c && !isBreak c then true
  else
    (c = '-' && !isGap behind) || (!scanner.inFlow && (c = '?' || c = ':') && !isGap behind)
      || (!scanner.legacy && scanner.inFlow && c = ':' && behind ≠ ' ' && behind ≠ '\t')

/-- Read the lexeme at a position that is not blank. -/
def addLexeme (scanner : Scanner) (queued : Bool) : Except Problem Scanner :=
  let cursor := scanner.cursor
  let gapBehind := isGap (cursor.peekAt 1)
  let c := cursor.peek
  if c = endOfText then scanner.addEnd
  else if c = '%' ∧ cursor.column = 0 then scanner.addDirective
  else if cursor.column = 0 ∧ cursor.isAtMark '-' then scanner.addDocumentLexeme .documentStart 3
  else if cursor.column = 0 ∧ cursor.isAtMark '.' then scanner.addDocumentLexeme .documentEnd 3
  else if c = '[' then scanner.openBracket c .openSequence
  else if c = '{' then scanner.openBracket c .openMapping
  else if c = ']' then scanner.closeBracket .closeSequence
  else if c = '}' then scanner.closeBracket .closeMapping
  else if c = ',' then scanner.addComma
  else if c = '-' ∧ gapBehind then scanner.addEntry
  else if c = '?' ∧ (scanner.inFlow ∨ gapBehind) then scanner.addKey
  else if c = ':' ∧ scanner.isValueMark queued then scanner.addValue
  else if c = '*' then
    scanner.addNode fun scanner =>
      (readAnchor scanner.cursor.next).map fun (name, cursor) => (.alias name, cursor)
  else if c = '&' then
    scanner.addNode fun scanner =>
      (readAnchor scanner.cursor.next).map fun (name, cursor) => (.anchor name, cursor)
  else if c = '!' then scanner.addNode fun scanner => readTag scanner.legacy scanner.cursor
  else if (c = '|' ∨ c = '>') ∧ !scanner.inFlow then scanner.addBlockScalar (c = '>')
  else if c = '\x27' ∨ c = '\x22' then scanner.addQuoted c
  else if scanner.beginsPlain then scanner.addPlain
  else .error .badLexeme

/-- Read the next lexeme, when no candidate is stale. -/
def step (scanner : Scanner) : Except Problem Scanner := do
  let queued := !scanner.candidates.isEmpty
  let scanner ← (scanner.skipBlank (scanner.cursor.rest.length + 1)).dropStale
  (scanner.closeBlocks scanner.cursor.column).addLexeme queued

/-- How many lexemes are sure to stay as they are: those before the first candidate. -/
def settled (scanner : Scanner) : Nat :=
  scanner.candidates.foldl (fun count candidate => min count candidate.place) scanner.lexemes.size

/-- The lexemes before a failure: only the first `count` are known to be part of the row. -/
def failed (scanner : Scanner) (count : Nat) (problem : Problem) : List Lexeme :=
  scanner.lexemes.toList.take count ++ [.failure problem]

/-- Read lexemes up to the end of the text, or as far as it can be read; the first `count` of those
that have been read are settled. -/
def run : Nat → Nat → Scanner → List Lexeme
  | 0, count, scanner => scanner.failed count .badLexeme
  | fuel + 1, count, scanner =>
    match scanner.dropStale with
    | .error problem => scanner.failed count problem
    | .ok scanner =>
      match scanner.step with
      | .error problem => scanner.failed scanner.settled problem
      | .ok next => if next.done then next.lexemes.toList else run fuel scanner.settled next

end Scanner

/-- Whether a character may occur in a document. -/
def isDocumentChar (c : Char) : Bool :=
  let n := c.toNat
  n = 0x09 || n = 0x0a || n = 0x0d || (0x20 ≤ n && n ≤ 0x7e) || n = 0x85
    || (0xa0 ≤ n && n ≤ 0xfffd) || 0x10000 ≤ n

/-- The lexemes of a text. A byte order mark at its beginning does not count. -/
def lexemesOf (text : List Char) : List Lexeme :=
  if text.all isDocumentChar then
    let cursor : Cursor := { rest := text }
    let start := if cursor.peek.toNat = 0xfeff then cursor.next else cursor
    Scanner.run (text.length + 2) 0 { cursor := start }
  else [.failure .badCharacter]

end Folio.Yaml
