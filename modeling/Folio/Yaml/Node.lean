import Folio.Yaml.Number
import Folio.Yaml.Date
import Folio.Yaml.Scanner

/-!
# Nodes

The lexemes of a document name nodes, each with a tag that tells what value it is. A plain scalar
without a tag gets one by the way it is written. The nodes of a document are numbered in the order
in which they begin, and a collection names its parts by their numbers: an alias stands for the node
with its anchor, so that node may be part of several collections, and even of itself.
-/

namespace Folio.Yaml

open Folio.Text

/-- What value a node is. -/
inductive Tag where
  | null | bool | int | float | binary | timestamp | text
  | sequence | ordered | pairs
  | mapping | set
  /-- The key of entries that are merged into a mapping. -/
  | merge
  /-- The key of the value that a mapping stands for. -/
  | default
  | unknown
  deriving DecidableEq, Repr, Inhabited

namespace Tag

/-- What the tags of the core schema begin with. -/
def coreHandle : List Char := "tag:yaml.org,2002:".toList

/-- The names of the tags behind the core handle. -/
def named : List (String × Tag) := [
  ("null", null), ("bool", bool), ("int", int), ("float", float), ("binary", binary),
  ("timestamp", timestamp), ("omap", ordered), ("pairs", pairs), ("set", set), ("str", text),
  ("seq", sequence), ("map", mapping), ("merge", merge), ("value", default)]

/-- The tag that is written out. -/
def ofText (written : List Char) : Tag :=
  match named.find? fun (name, _) => coreHandle ++ name.toList = written with
  | some (_, tag) => tag
  | none => unknown

/-- The words for truth. -/
def truthWords (legacy : Bool) : List String :=
  ["true", "True", "TRUE", "false", "False", "FALSE"] ++
    if legacy then
      ["y", "Y", "yes", "Yes", "YES", "on", "On", "ON",
        "n", "N", "no", "No", "NO", "off", "Off", "OFF"]
    else []

/-- A text without a line feed at its end, unless it is nothing else. -/
def dropFinalBreak (cs : List Char) : List Char :=
  if 1 < cs.length && cs.getLast? = some '\n' then cs.dropLast else cs

/-- The tag of a plain scalar. A line feed at the end does not count. -/
def ofPlain (legacy : Bool) (cs : List Char) : Tag :=
  let cs := dropFinalBreak cs
  let isOneOf (words : List String) : Bool := words.any fun word => word.toList = cs
  if isOneOf ["", "~", "null", "Null", "NULL"] then null
  else if isOneOf (truthWords legacy) then bool
  else if isFloat legacy cs then float
  else if cs.head? ≠ some '_' && isInteger legacy cs then int
  else if isOneOf ["<<"] then merge
  else if isDate cs then timestamp
  else if isOneOf ["="] then default
  else if isOneOf ["!", "&", "*"] then unknown
  else text

end Tag

/-- A node of a document. Other nodes are given by their numbers. -/
inductive Node where
  | scalar (tag : Tag) (text : CodePoints)
  | sequence (tag : Tag) (items : List Nat)
  /-- A mapping; `merged` tells whether entries of others have been merged into it. -/
  | mapping (tag : Tag) (merged : Bool) (entries : List (Nat × Nat))
  deriving Inhabited, Repr

namespace Node

/-- The node where none is written. -/
def empty : Node := .scalar .null []

/-- The tag of a node. -/
def tag : Node → Tag
  | .scalar tag _ | .sequence tag _ | .mapping tag _ _ => tag

/-- What reading nodes depends on. -/
structure Scheme where
  legacy : Bool
  /-- What handles stand for. -/
  handles : List (List Char × List Char)

/-- The lexemes that are left, the nodes so far, and the numbers of those with anchors, the latest
first. -/
structure Rest where
  lexemes : List Lexeme
  nodes : Array Node := #[]
  anchors : List (List Char × Nat) := []

namespace Rest

/-- Drop lexemes that have been read. -/
def drop (rest : Rest) (count : Nat) : Rest := { rest with lexemes := rest.lexemes.drop count }

/-- Add a node, which gets the next number. -/
def add (rest : Rest) (node : Node) : Nat × Rest :=
  (rest.nodes.size, { rest with nodes := rest.nodes.push node })

/-- Add a node and remember its number by its anchor. -/
def addNamed (rest : Rest) (anchor : Option (List Char)) (node : Node) : Nat × Rest :=
  let (n, rest) := rest.add node
  match anchor with
  | some anchor => (n, { rest with anchors := (anchor, n) :: rest.anchors })
  | none => (n, rest)

/-- Put a node in the place of one that has been added before its parts. -/
def set (rest : Rest) (n : Nat) (node : Node) : Rest :=
  { rest with nodes := rest.nodes.setIfInBounds n node }

/-- Whether the next lexeme is one of some. -/
def beginsWith (rest : Rest) (lexemes : List Lexeme) : Bool :=
  rest.lexemes.head?.any lexemes.contains

/-- The failure that comes next, if any. -/
def failure? (rest : Rest) : Option Problem :=
  match rest.lexemes with
  | .failure problem :: _ => some problem
  | _ => none

/-- What is wrong if the next lexeme fits nowhere. -/
def misfit (rest : Rest) : Problem := rest.failure?.getD .badStructure

end Rest

/-- The anchor and the tag in front of a node. -/
structure Properties where
  anchor : Option (List Char) := none
  tag : Option (Option (List Char) × List Char) := none

/-- The anchor and the tag in front of a node, in either order, and how many lexemes they are. -/
def propertiesOf : List Lexeme → Properties × Nat
  | .anchor anchor :: .tag handle suffix :: _ => (⟨some anchor, some (handle, suffix)⟩, 2)
  | .tag handle suffix :: .anchor anchor :: _ => (⟨some anchor, some (handle, suffix)⟩, 2)
  | .anchor anchor :: _ => (⟨some anchor, none⟩, 1)
  | .tag handle suffix :: _ => (⟨none, some (handle, suffix)⟩, 1)
  | _ => ({}, 0)

/-- The character whose number is written in base sixteen. -/
def charNumbered (digits : List Char) : Except Problem Char := do
  let number ← integerIn 16 digits
  if number < 0 then throw Problem.badCodePoint else return .ofNat number.toNat

/-- The end of a tag with the escapes resolved that are left in it, each of two digits. -/
def finishTag : List Char → Except Problem (List Char)
  | '%' :: a :: b :: cs => do
    let c ← charNumbered [a, b]
    return c :: (← finishTag cs)
  | '%' :: digits => (charNumbered digits).map ([·])
  | c :: cs => (finishTag cs).map (c :: ·)
  | [] => .ok []

/-- The tag as it is written out; none if the node's own form decides. -/
def writtenTag (scheme : Scheme) (tag : Option (Option (List Char) × List Char)) :
    Except Problem (Option (List Char)) :=
  match tag with
  | none => .ok none
  | some (none, suffix) => (finishTag suffix).map some
  | some (some handle, suffix) =>
    match scheme.handles.lookup handle with
    | some meaning => (finishTag suffix).map fun suffix => some (meaning ++ suffix)
    | none => .error .badStructure

/-- The tag of a collection. -/
def collectionTag (fallback : Tag) (written : Option (List Char)) : Tag :=
  match written with
  | none => fallback
  | some written => if written = ['!'] then fallback else .ofText written

/-- A scalar. -/
def scalarNode (scheme : Scheme) (written : Option (List Char)) (plain : Bool) (text : CodePoints) :
    Node :=
  let tag :=
    match written with
    | none => if plain then Tag.ofPlain scheme.legacy text.chars else .text
    | some written =>
      if written = ['!'] then Tag.ofPlain scheme.legacy text.chars else .ofText written
  .scalar tag text

mutual

/-- Read a node. Block collections, and sequences without indentation of their own, are read where
they may stand. -/
def read : Nat → Scheme → Bool → Bool → Rest → Except Problem (Nat × Rest)
  | 0, _, _, _, _ => .error .badStructure
  | fuel + 1, scheme, block, unindented, rest =>
    match rest.lexemes with
    | .alias name :: _ =>
      match rest.anchors.lookup name with
      | some n => .ok (n, rest.drop 1)
      | none => .error .unknownAlias
    | _ => do
      let (properties, count) := propertiesOf rest.lexemes
      let rest := rest.drop count
      if let (1, some problem) := (count, rest.failure?) then throw problem
      let written ← writtenTag scheme properties.tag
      let sequence (items : List Nat) : Node := .sequence (collectionTag .sequence written) items
      let mapping (entries : List (Nat × Nat)) : Node :=
        .mapping (collectionTag .mapping written) false entries
      let missing : Except Problem (Nat × Rest) :=
        if count = 0 then .error rest.misfit
        else .ok (rest.addNamed properties.anchor (scalarNode scheme written true []))
      match rest.lexemes with
      | .entry :: _ =>
        if unindented then
          let (n, rest) := rest.addNamed properties.anchor (sequence [])
          let (items, rest) ← readEntries fuel scheme false rest
          return (n, rest.set n (sequence items))
        else missing
      | .scalar text plain :: _ =>
        return (rest.drop 1).addNamed properties.anchor (scalarNode scheme written plain text)
      | .openSequence :: _ =>
        let (n, rest) := (rest.drop 1).addNamed properties.anchor (sequence [])
        let (items, rest) ← readFlowItems fuel scheme true rest
        return (n, rest.set n (sequence items))
      | .openMapping :: _ =>
        let (n, rest) := (rest.drop 1).addNamed properties.anchor (mapping [])
        let (entries, rest) ← readFlowPairs fuel scheme true rest
        return (n, rest.set n (mapping entries))
      | .blockSequence :: _ =>
        if block then
          let (n, rest) := (rest.drop 1).addNamed properties.anchor (sequence [])
          let (items, rest) ← readEntries fuel scheme true rest
          return (n, rest.set n (sequence items))
        else missing
      | .blockMapping :: _ =>
        if block then
          let (n, rest) := (rest.drop 1).addNamed properties.anchor (mapping [])
          let (entries, rest) ← readPairs fuel scheme rest
          return (n, rest.set n (mapping entries))
        else missing
      | _ => missing

/-- Read the entries of a block sequence. One with indentation of its own ends with a lexeme. -/
def readEntries : Nat → Scheme → Bool → Rest → Except Problem (List Nat × Rest)
  | 0, _, _, _ => .error .badStructure
  | fuel + 1, scheme, indented, rest => do
    if rest.beginsWith [.entry] then
      let rest := rest.drop 1
      let ends : List Lexeme :=
        if indented then [.entry, .blockEnd] else [.entry, .key, .value, .blockEnd]
      let (item, rest) ←
        if rest.beginsWith ends then pure (rest.add empty) else read fuel scheme true false rest
      let (items, rest) ← readEntries fuel scheme indented rest
      return (item :: items, rest)
    else if !indented then return ([], rest)
    else if rest.beginsWith [.blockEnd] then return ([], rest.drop 1)
    else throw rest.misfit

/-- Read the entries of a block mapping. -/
def readPairs : Nat → Scheme → Rest → Except Problem (List (Nat × Nat) × Rest)
  | 0, _, _ => .error .badStructure
  | fuel + 1, scheme, rest => do
    let ends : List Lexeme := [.key, .value, .blockEnd]
    if rest.beginsWith [.blockEnd] then return ([], rest.drop 1)
    else
      let (key, rest) ←
        if rest.beginsWith [.key] then
          if (rest.drop 1).beginsWith ends then pure ((rest.drop 1).add empty)
          else read fuel scheme true true (rest.drop 1)
        else if !scheme.legacy && rest.beginsWith [.value] then pure (rest.add empty)
        else throw rest.misfit
      let (value, rest) ←
        if rest.beginsWith [.value] && !(rest.drop 1).beginsWith ends then
          read fuel scheme true true (rest.drop 1)
        else pure ((if rest.beginsWith [.value] then rest.drop 1 else rest).add empty)
      let (entries, rest) ← readPairs fuel scheme rest
      return ((key, value) :: entries, rest)

/-- Read the key and the value of an entry in brackets, of which the key is marked or missing. -/
def readFlowPair : Nat → Scheme → Lexeme → Rest → Except Problem ((Nat × Nat) × Rest)
  | 0, _, _, _ => .error .badStructure
  | fuel + 1, scheme, close, rest => do
    let ends : List Lexeme := [.comma, close]
    let (key, rest) ←
      if rest.beginsWith [.key] && !(rest.drop 1).beginsWith (.value :: ends) then
        read fuel scheme false false (rest.drop 1)
      else pure ((if rest.beginsWith [.key] then rest.drop 1 else rest).add empty)
    let (value, rest) ←
      if rest.beginsWith [.value] && !(rest.drop 1).beginsWith ends then
        read fuel scheme false false (rest.drop 1)
      else pure ((if rest.beginsWith [.value] then rest.drop 1 else rest).add empty)
    return ((key, value), rest)

/-- Read the items of a sequence in brackets; between two of them stands a comma. -/
def readFlowItems : Nat → Scheme → Bool → Rest → Except Problem (List Nat × Rest)
  | 0, _, _, _ => .error .badStructure
  | fuel + 1, scheme, first, rest => do
    if rest.beginsWith [.closeSequence] then return ([], rest.drop 1)
    else if !first && !rest.beginsWith [.comma] then throw rest.misfit
    else
      let rest := if first then rest else rest.drop 1
      if rest.beginsWith [.closeSequence] then return ([], rest.drop 1)
      else
        let (item, rest) ←
          if rest.beginsWith [.key] then do
            let (n, rest) := rest.add (.mapping .mapping false [])
            let (entry, rest) ← readFlowPair fuel scheme .closeSequence rest
            pure (n, rest.set n (.mapping .mapping false [entry]))
          else read fuel scheme false false rest
        let (items, rest) ← readFlowItems fuel scheme false rest
        return (item :: items, rest)

/-- Read the entries of a mapping in brackets; between two of them stands a comma. -/
def readFlowPairs : Nat → Scheme → Bool → Rest → Except Problem (List (Nat × Nat) × Rest)
  | 0, _, _, _ => .error .badStructure
  | fuel + 1, scheme, first, rest => do
    if rest.beginsWith [.closeMapping] then return ([], rest.drop 1)
    else if !first && !rest.beginsWith [.comma] then throw rest.misfit
    else
      let rest := if first then rest else rest.drop 1
      if rest.beginsWith [.closeMapping] then return ([], rest.drop 1)
      else
        let marked := rest.beginsWith [.key] || (!scheme.legacy && rest.beginsWith [.value])
        let (entry, rest) ←
          if marked then readFlowPair fuel scheme .closeMapping rest
          else do
            let (key, rest) ← read fuel scheme false false rest
            let (value, rest) := rest.add empty
            pure ((key, value), rest)
        let (entries, rest) ← readFlowPairs fuel scheme false rest
        return (entry :: entries, rest)

end

/-! ## Documents -/

/-- Read the directives in front of a document. -/
def readDirectives (version : Option Nat) (handles : List (List Char × List Char)) :
    List Lexeme → Except Problem (Option Nat × List (List Char × List Char) × List Lexeme)
  | .directive directive :: rest =>
    match directive with
    | .version major minor =>
      if version.isSome || major ≠ 1 then .error .badStructure
      else readDirectives (some minor) handles rest
    | .handle name meaning =>
      if (handles.lookup name).isSome then .error .badStructure
      else readDirectives version (handles ++ [(name, meaning)]) rest
    | .other => readDirectives version handles rest
  | rest => .ok (version, handles, rest)

/-- Whether the minor number of a version is known. -/
def checkVersion (version : Option Nat) : Except Problem Unit :=
  match version with
  | none | some 1 | some 2 => .ok ()
  | some minor => .error (.unknownVersion minor)

/-- What handles stand for unless a directive says otherwise. -/
def defaultHandles : List (List Char × List Char) := [(['!'], ['!']), (['!', '!'], Tag.coreHandle)]

/-- Check that nothing but the end of the document is left; in version 1.1 it may be marked more
than once. -/
def checkEnd (legacy : Bool) (rest : Rest) : Except Problem Unit :=
  let marks := rest.lexemes.takeWhile (· = .documentEnd)
  let rest := rest.drop (if legacy then marks.length else min marks.length 1)
  if rest.lexemes = [] then .ok () else .error rest.misfit

/-- A document. -/
structure Document where
  /-- Whether it is of version 1.1. -/
  legacy : Bool
  nodes : Array Node
  root : Nat

/-- Whether a document ends before the lexeme. -/
def isMark : Lexeme → Bool
  | .directive _ | .documentStart | .documentEnd => true
  | _ => false

/-- Read the only document of a stream; there is none if the stream is empty. -/
def readStream (lexemes : List Lexeme) : Except Problem (Option Document) := do
  let fuel := 2 * lexemes.length + 2
  match lexemes with
  | [] => return none
  | .directive _ :: _ | .documentStart :: _ =>
    let (version, handles, lexemes) ← readDirectives none [] lexemes
    let start : Rest := { lexemes }
    if let some problem := start.failure? then throw problem
    checkVersion version
    let scheme : Scheme := ⟨version = some 1, handles ++ defaultHandles⟩
    if start.beginsWith [.documentStart] then
      let start := start.drop 1
      let (root, rest) ←
        if start.lexemes.head?.all isMark then pure (start.add empty)
        else read fuel scheme true false start
      checkEnd scheme.legacy rest
      return some ⟨scheme.legacy, rest.nodes, root⟩
    else throw Problem.badStructure
  | _ =>
    let (root, rest) ← read fuel ⟨false, defaultHandles⟩ true false { lexemes }
    checkEnd false rest
    return some ⟨false, rest.nodes, root⟩

end Node

end Folio.Yaml
