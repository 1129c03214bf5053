import Folio.Yaml.Problem
import Folio.Yaml.Value

/-!
# Contents of nodes

What is known about the nodes of a document while its value is made. A collection names its parts by
the numbers of their nodes, so it can be part of itself; its keys are values already. A key cannot
change: a sequence turns into a tuple, and a collection inside it is an error.
-/

namespace Folio.Yaml

/-- A part of a collection: the number of a node, or nothing where a node would be part of a key
that it is in itself. -/
abbrev Part := Option Nat

/-- What a node holds. -/
inductive Content where
  | value (value : Value)
  | sequence (items : List Part)
  | pairs (entries : List (Part × Part))
  | mapping (ordered : Bool) (entries : List (Value × Part))
  | set (items : List Value)
  deriving Inhabited

/-- The contents of nodes by their numbers. -/
abbrev Contents := Array (Option Content)

namespace Contents

/-- The content of a part; nothing is null. -/
def of (contents : Contents) (part : Part) : Content :=
  ((part.bind (contents[·]?)).join).getD (.value .null)

/-- The value of a part that holds no others. -/
def simpleValue (contents : Contents) (part : Part) : Except Problem Value :=
  match contents.of part with
  | .value value => .ok value
  | .sequence _ | .pairs _ => .error (.nestedKey .sequence)
  | .mapping ordered _ => .error (.nestedKey (if ordered then .ordered else .mapping))
  | .set _ => .error (.nestedKey .set)

/-- Whether a part may be a key: no mapping and no set. -/
def mayBeKey (contents : Contents) (part : Part) : Bool :=
  match contents.of part with
  | .mapping _ _ | .set _ => false
  | _ => true

/-- The key that a part is. -/
def keyOf (contents : Contents) (part : Part) : Except Problem Value :=
  match contents.of part with
  | .sequence items => (items.mapM contents.simpleValue).map .tuple
  | .pairs entries =>
    (entries.mapM fun (first, second) => do
      let first ← contents.simpleValue first
      return Value.tuple [first, ← contents.simpleValue second]).map .tuple
  | _ => contents.simpleValue part

/-- The value of a part. Collections further down than `depth` count as empty sequences, since a
collection may have no bottom. -/
def valueOf (contents : Contents) : Nat → Part → Value
  | 0, part =>
    match contents.of part with
    | .value value => value
    | _ => .sequence []
  | depth + 1, part =>
    let inner := valueOf contents depth
    match contents.of part with
    | .value value => value
    | .sequence items => .sequence (items.map inner)
    | .pairs entries =>
      .sequence (entries.map fun (first, second) => .tuple [inner first, inner second])
    | .mapping _ entries => .mapping (entries.map fun (key, part) => (key, inner part))
    | .set items => .set items

end Contents

end Folio.Yaml
