import Folio.Text.Case
import Folio.Yaml.Base64
import Folio.Yaml.Content
import Folio.Yaml.Merge

/-!
# Values of documents

Each node gives the value that its tag names. Collections are filled level by level: those that are
parts of another one wait until it is full. Only keys are filled at once, with all that is in them.
The keys of a mapping have to differ, unless entries of other mappings are merged into it: then a
later entry takes the place of an earlier one.
-/

namespace Folio.Yaml

open Folio.Text

/-! ## Scalars -/

/-- The text of a node with a tag for scalars. A mapping has the text of the value that stands for
it; the fuel bounds how many such values are followed. -/
def textOf (nodes : Array Node) : Nat → Nat → Except Problem CodePoints
  | 0, _ => .error .wrongKind
  | fuel + 1, n =>
    match nodes[n]? with
    | some (.scalar _ text) => .ok text
    | some (.mapping _ _ entries) =>
      match entries.find? fun (key, _) => Node.tagOf nodes key = .default with
      | some (_, value) => textOf nodes fuel value
      | none => .error .wrongKind
    | _ => .error .wrongKind

/-- The truth value of a word. -/
def truthOf (cs : List Char) : Except Problem Bool :=
  let word := String.ofList (lower cs)
  if ["yes", "y", "true", "on"].contains word then .ok true
  else if ["no", "n", "false", "off"].contains word then .ok false
  else .error (.badTruth word)

/-- The value of a text with a tag for scalars. -/
def scalarValue (legacy : Bool) (tag : Tag) (text : CodePoints) : Except Problem Value :=
  match tag with
  | .null => .ok .null
  | .bool => (truthOf text.chars).map .bool
  | .int => (integerOf legacy text.chars).map .int
  | .float => (doubleOf legacy text.chars).map .real
  | .binary =>
    match decodeBase64? text.chars with
    | some data => .ok (.bytes data)
    | none => .error .wrongKind
  | .timestamp =>
    match writtenDate? (Tag.dropFinalBreak text.chars) with
    | some written => (momentOf written).map .moment
    | none => .error .wrongKind
  | .text => .ok (.ofCodePoints text)
  | _ => .error .unknownTag

/-- The value of a node that is no collection. -/
def simpleNodeValue (legacy : Bool) (nodes : Array Node) (n : Nat) : Except Problem Value := do
  let tag := Node.tagOf nodes n
  match tag with
  | .merge | .default | .unknown => throw Problem.unknownTag
  | .timestamp =>
    match nodes[n]? with
    | some (.scalar _ text) => scalarValue legacy tag text
    | _ => throw Problem.wrongKind
  | _ => scalarValue legacy tag (← textOf nodes (nodes.size + 1) n)

/-! ## Collections -/

/-- The content of a collection before it is filled; other tags have none. -/
def emptyContent? : Tag → Option Content
  | .sequence => some (.sequence [])
  | .pairs => some (.pairs [])
  | .ordered => some (.mapping true [])
  | .mapping => some (.mapping false [])
  | .set => some (.set [])
  | _ => none

/-- How far the value of a document has been made. -/
structure Progress where
  nodes : Array Node
  contents : Contents
  /-- The nodes that are being built, the innermost first. -/
  active : List Nat := []
  /-- Whether collections are filled at once. -/
  eager : Bool := false
  /-- The collections that wait to be filled, the latest first. -/
  waiting : List Nat := []

/-- An action that makes a part of the value of a document. -/
abbrev Building := StateT Progress (Except Problem)

namespace Building

/-- Set the content of a node. -/
def setContent (n : Nat) (content : Content) : Building Unit :=
  modify fun progress =>
    { progress with contents := progress.contents.setIfInBounds n (some content) }

/-- The items of a sequence. -/
def itemsOf (n : Nat) : Building (List Nat) := do
  match (← get).nodes[n]? with
  | some (.sequence _ items) => return items
  | _ => throw .wrongKind

/-- The only entry of a mapping. -/
def onlyEntry (n : Nat) : Building (Nat × Nat) := do
  match (← get).nodes[n]? with
  | some (.mapping _ _ [entry]) => return entry
  | _ => throw .wrongKind

/-- The entries of a mapping with all that is merged into it, and whether that is anything. -/
def mergedEntries (n : Nat) : Building (Bool × List (Nat × Nat)) := do
  let nodes := (← get).nodes
  match nodes[n]? with
  | some (.mapping _ _ _) =>
    let nodes ← Node.mergeInto nodes n
    modify fun progress => { progress with nodes }
    match nodes[n]? with
    | some (.mapping _ merged entries) => return (merged, entries)
    | _ => throw .wrongKind
  | _ => throw .wrongKind

mutual

/-- Build a node, with all that is in it if it is a key. A node that is being built counts as null
inside itself. -/
def build (legacy : Bool) : Nat → Bool → Nat → Building Part
  | 0, _, _ => throw .wrongKind
  | fuel + 1, isKey, n => do
    let before ← get
    if before.active.contains n then
      set { before with eager := before.eager || isKey }
      return none
    else if (before.contents[n]?.join).isSome then return some n
    else
      set { before with eager := before.eager || isKey, active := n :: before.active }
      match emptyContent? (Node.tagOf before.nodes n) with
      | none => setContent n (.value (← simpleNodeValue legacy before.nodes n))
      | some content =>
        setContent n content
        if before.eager || isKey then fill legacy fuel n
        else modify fun progress => { progress with waiting := n :: progress.waiting }
      modify fun progress =>
        { progress with
          active := before.active, eager := if isKey then before.eager else progress.eager }
      return some n

/-- Fill a collection with its parts. -/
def fill (legacy : Bool) : Nat → Nat → Building Unit
  | 0, _ => throw .wrongKind
  | fuel + 1, n => do
    match Node.tagOf (← get).nodes n with
    | .sequence =>
      let items ← (← itemsOf n).mapM (build legacy fuel false)
      setContent n (.sequence items)
    | .pairs =>
      let entries ← (← itemsOf n).mapM fun item => do
        let (first, second) ← onlyEntry item
        let first ← build legacy fuel false first
        return (first, ← build legacy fuel false second)
      setContent n (.pairs entries)
    | .ordered =>
      let entries ← (← itemsOf n).foldlM (fun entries item => do
        let (key, value) ← onlyEntry item
        let part ← build legacy fuel false key
        let key ← (← get).contents.simpleValue part
        if entries.any (·.1.sameKey key) then throw Problem.repeatedOrderedKey
        else return entries ++ [(key, ← build legacy fuel false value)]) []
      setContent n (.mapping true entries)
    | .mapping => setContent n (.mapping false (← fillEntries legacy fuel n))
    | .set => setContent n (.set ((← fillEntries legacy fuel n).map (·.1)))
    | _ => throw .wrongKind

/-- Build the entries of a mapping. -/
def fillEntries (legacy : Bool) : Nat → Nat → Building (List (Value × Part))
  | 0, _ => throw .wrongKind
  | fuel + 1, n => do
    let (merged, entries) ← mergedEntries n
    entries.foldlM (fun entries (key, value) => do
      let part ← build legacy fuel true key
      if !(← get).contents.mayBeKey part then throw Problem.badKey
      else
        let value ← build legacy fuel false value
        let key ← (← get).contents.keyOf part
        if !merged && entries.any (·.1.sameKey key) then throw Problem.repeatedKey
        else return Value.putEntry key value entries) []

end

/-- Fill the collections that wait, and those that wait because of them, at most `rounds` times. -/
def fillWaiting (legacy : Bool) (fuel : Nat) : Nat → Building Unit
  | 0 => return ()
  | rounds + 1 => do
    let progress ← get
    set { progress with waiting := [] }
    progress.waiting.reverse.forM (fill legacy fuel)
    if (← get).waiting = [] then return () else fillWaiting legacy fuel rounds

/-- Build all of a document. Every node is built once, so the depth and the number of rounds are
bounded by the number of nodes. -/
def document (document : Node.Document) : Building Part := do
  let count := document.nodes.size
  let fuel := 3 * count + 3
  let root ← build document.legacy fuel false document.root
  fillWaiting document.legacy fuel (count + 1)
  return root

end Building

/-- The value of a document; see `Contents.valueOf` for the depth. -/
def Node.Document.value (depth : Nat) (document : Node.Document) : Except Problem Value := do
  let start : Progress :=
    { nodes := document.nodes, contents := Array.replicate document.nodes.size none }
  let (root, progress) ← (Building.document document).run start
  return progress.contents.valueOf depth root

/-- The value of a text that holds one document or none. -/
def load (depth : Nat) (text : List Char) : Except Problem Value := do
  match ← Node.readStream (lexemesOf text) with
  | some document => document.value depth
  | none => return .null

end Folio.Yaml
