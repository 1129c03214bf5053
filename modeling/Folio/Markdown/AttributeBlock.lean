import Folio.Text.Blank
import Folio.Text.Digit

/-!
# Attribute blocks

Braces around names with marks: `{#id .class key=value other="some text" % a remark %}`. The block
is read character by character. A block that ends before its closing brace counts as far as it goes;
what is left open in it is dropped.
-/

namespace Folio.Markdown

open Folio.Text

/-- Attributes that a block sets, in order. -/
structure NamedAttributes where
  pairs : List (String × String) := []
  classes : List String := []
  deriving Repr

namespace NamedAttributes

/-- Set an attribute; one that is there keeps its place. Classes add up. -/
def add (attributes : NamedAttributes) (name value : List Char) : NamedAttributes :=
  let name := String.ofList name
  let value := String.ofList value
  if name = "class" then { attributes with classes := attributes.classes ++ [value] }
  else { attributes with pairs := put name value attributes.pairs }
where
  /-- Put a value into a list of pairs with different names. -/
  put (name value : String) : List (String × String) → List (String × String)
    | [] => [(name, value)]
    | pair :: rest => if pair.1 = name then (name, value) :: rest else pair :: put name value rest

/-- All attributes, the classes as one at the end. -/
def toList (attributes : NamedAttributes) : List (String × String) :=
  attributes.pairs ++
    if attributes.classes.isEmpty then [] else [("class", " ".intercalate attributes.classes)]

end NamedAttributes

/-- The characters of a name behind `#` or `.`: no blanks, and of ASCII punctuation only the hyphen,
the colon, the underscore and the backslash. -/
def isNameChar (c : Char) : Bool :=
  !isBlank c && !"!\"#$%&\x27()*+,./;<=>?@[]^\x60\x7b|\x7d~".toList.contains c

/-- The characters of a key and of a value without quotes. -/
def isKeyChar (c : Char) : Bool :=
  c.isAlpha || isDecimalDigit c || c = '_' || c = ':' || c = '-'

/-- Where reading a block has come to, with the characters of the current word in reverse. -/
inductive BlockState where
  | start
  | between
  | remark
  /-- The value of the target, written as a mark and a name. -/
  | name (target word : List Char)
  | key (word : List Char)
  | value (target : List Char)
  | bare (target word : List Char)
  | quoted (target word : List Char)
  | escaped (target word : List Char)
  | done

/-- Read one character; an attribute that is complete is given with the next state. -/
def BlockState.step (state : BlockState) (c : Char) :
    Option (BlockState × Option (List Char × List Char)) :=
  let ended (target word : List Char) : Option (BlockState × Option (List Char × List Char)) :=
    let item := some (target, word.reverse)
    if c = '}' then some (.done, item)
    else if isBlank c then some (.between, item)
    else none
  match state with
  | .start => if c = '{' then some (.between, none) else none
  | .between =>
    if c = ' ' ∨ c = '\t' ∨ c = '\n' ∨ c = '\r' then some (.between, none)
    else if c = '}' then some (.done, none)
    else if c = '#' then some (.name "id".toList [], none)
    else if c = '.' then some (.name "class".toList [], none)
    else if c = '%' then some (.remark, none)
    else if isKeyChar c then some (.key [c], none)
    else none
  | .remark => some (if c = '%' then .between else .remark, none)
  | .name target word =>
    if isNameChar c then some (.name target (c :: word), none)
    else
      (ended target word).map fun (state, item) =>
        (state, if word.isEmpty then none else item)
  | .key word =>
    if c = '=' then some (.value word.reverse, none)
    else if isKeyChar c then some (.key (c :: word), none)
    else none
  | .value target =>
    if c = '\x22' then some (.quoted target [], none)
    else if isKeyChar c then some (.bare target [c], none)
    else none
  | .bare target word =>
    if isKeyChar c then some (.bare target (c :: word), none) else ended target word
  | .quoted target word =>
    if c = '\x22' then some (.between, some (target, word.reverse))
    else if c = '\\' then some (.escaped target (c :: word), none)
    else if c = '{' ∨ c = '}' then none
    else some (.quoted target (c :: word), none)
  | .escaped target word =>
    if c = '{' ∨ c = '}' then none else some (.quoted target (c :: word), none)
  | .done => none

/-- Read on, from a state and a position. -/
def readAttributesFrom? (attributes : NamedAttributes) (state : BlockState) (n : Nat) :
    List Char → Option (Nat × NamedAttributes)
  | [] => some (n, attributes)
  | c :: cs =>
    match state.step c with
    | none => none
    | some (next, item) =>
      let attributes := item.elim attributes fun (key, value) => attributes.add key value
      match next with
      | .done => some (n, attributes)
      | next => readAttributesFrom? attributes next (n + 1) cs

/-- Read the block at the front of a text: the position of its closing brace, or of the end of the
text, and the attributes that it sets. -/
def readAttributes? (cs : List Char) : Option (Nat × List (String × String)) :=
  (readAttributesFrom? {} .start 0 cs).map fun (n, attributes) => (n, attributes.toList)

end Folio.Markdown
