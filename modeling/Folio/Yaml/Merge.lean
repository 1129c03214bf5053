import Folio.Yaml.Node

/-!
# Merging mappings

An entry whose key has the tag for merging brings the entries of other mappings into its own: of the
mapping that is its value, or of all mappings in a sequence. They come before the entries that the
mapping has itself. The mappings that are merged get the entries that they merge first. A mapping
may be merged into itself; then it brings the entries that it has apart from the merging one.
-/

namespace Folio.Yaml

namespace Node

/-- The entries of the mapping with a number. -/
def entriesOf (nodes : Array Node) (n : Nat) : List (Nat × Nat) :=
  match nodes[n]? with
  | some (.mapping _ _ entries) => entries
  | _ => []

/-- Give a mapping other entries. -/
def setEntries (nodes : Array Node) (n : Nat) (entries : List (Nat × Nat)) : Array Node :=
  nodes.modify n fun node =>
    match node with
    | .mapping tag merged _ => .mapping tag merged entries
    | node => node

/-- Put entries in front of those of a mapping. -/
def addMerged (nodes : Array Node) (n : Nat) (merged : List (Nat × Nat)) : Array Node :=
  nodes.modify n fun node =>
    match node with
    | .mapping tag _ entries => .mapping tag true (merged ++ entries)
    | node => node

/-- The tag of the node with a number. -/
def tagOf (nodes : Array Node) (n : Nat) : Tag := (nodes[n]?.map tag).getD .unknown

/-- The value of the first merging entry, and the other entries. -/
def takeMerging? (nodes : Array Node) : List (Nat × Nat) → Option (Nat × List (Nat × Nat))
  | [] => none
  | entry :: rest =>
    if tagOf nodes entry.1 = .merge then some (entry.2, rest)
    else (takeMerging? nodes rest).map fun (value, rest) => (value, entry :: rest)

/-- The node with another tag. -/
def withTag (tag : Tag) : Node → Node
  | .scalar _ text => .scalar tag text
  | .sequence _ items => .sequence tag items
  | .mapping _ merged entries => .mapping tag merged entries

/-- Turn the keys of a mapping that stand for its value into texts. -/
def settleKeys (nodes : Array Node) (n : Nat) : Array Node :=
  (entriesOf nodes n).foldl (fun nodes (key, _) =>
    if tagOf nodes key = .default then nodes.modify key (withTag .text) else nodes) nodes

/-- The entries that the mappings with the given numbers bring; those of the last one come first.
`flatten` merges what a mapping merges itself. -/
def entriesOfAll (flatten : Nat → Array Node → Except Problem (Array Node)) (nodes : Array Node) :
    List Nat → Except Problem (List (Nat × Nat) × Array Node)
  | [] => .ok ([], nodes)
  | n :: rest =>
    match nodes[n]? with
    | some (.mapping _ _ _) => do
      let nodes ← flatten n nodes
      let entries := entriesOf nodes n
      let (others, nodes) ← entriesOfAll flatten nodes rest
      return (others ++ entries, nodes)
    | _ => .error .wrongKind

/-- The entries that the value of a merging entry brings. -/
def broughtEntries (flatten : Nat → Array Node → Except Problem (Array Node)) (nodes : Array Node)
    (value : Nat) : Except Problem (List (Nat × Nat) × Array Node) :=
  match nodes[value]? with
  | some (.mapping _ _ _) => entriesOfAll flatten nodes [value]
  | some (.sequence _ items) => entriesOfAll flatten nodes items
  | _ => .error .wrongKind

/-- Take the merging entries out of a mapping, at most `count` of them. Only the last of them may
bring anything. -/
def drainMerging (flatten : Nat → Array Node → Except Problem (Array Node)) (n : Nat) :
    Nat → List (Nat × Nat) → Array Node → Except Problem (List (Nat × Nat) × Array Node)
  | 0, merged, nodes => .ok (merged, nodes)
  | count + 1, merged, nodes =>
    match takeMerging? nodes (entriesOf nodes n) with
    | none => .ok (merged, nodes)
    | some (value, entries) =>
      if merged = [] then do
        let (merged, nodes) ← broughtEntries flatten (setEntries nodes n entries) value
        drainMerging flatten n count merged nodes
      else .error .repeatedKey

/-- Merge into a mapping what its merging entries bring. Every merging entry is taken out before its
value is looked at, so the depth need not be greater than the number of all entries. -/
def flatten : Nat → Nat → Array Node → Except Problem (Array Node)
  | 0, _, nodes => .ok nodes
  | depth + 1, n, nodes => do
    let count := (entriesOf nodes n).length
    let (merged, nodes) ← drainMerging (flatten depth) n count [] nodes
    let nodes := settleKeys nodes n
    return if merged = [] then nodes else addMerged nodes n merged

/-- The number of entries of all mappings. -/
def entryCount (nodes : Array Node) : Nat :=
  nodes.foldl (fun count node =>
    match node with
    | .mapping _ _ entries => count + entries.length
    | _ => count) 0

/-- Merge into a mapping what its merging entries bring. -/
def mergeInto (nodes : Array Node) (n : Nat) : Except Problem (Array Node) :=
  flatten (entryCount nodes + 1) n nodes

end Node

end Folio.Yaml
