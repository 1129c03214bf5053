import Folio.Text.Escape
import Folio.Token.Basic

/-!
# Collecting footnotes

Footnotes are collected in one walk over the token stream. Definitions are taken out and kept by
name, the first one of each name; references become numbered superscripts that link to the
definition. Markers need not be paired: a definition that begins inside another ends it, and an end
without a beginning is passed over.
-/

namespace Folio.Footnote

open Folio.Text

/-- Something odd about the footnotes of a page. -/
inductive Warning where
  /-- A definition begins inside another one. -/
  | nested
  /-- A name is defined once more; the first definition stays. -/
  | repeated (name : String)
  /-- A definition that nothing refers to. -/
  | unreferenced (name : String)
  deriving DecidableEq, Repr

/-- The wording of a warning about a page. -/
def Warning.message (page : String) : Warning → String
  | .nested => "internal bug: nested footnote not expected in " ++ page
  | .repeated name =>
    "footnote \x60" ++ name ++ "\x60 in " ++ page ++
      " defined multiple times - not updating to new definition"
  | .unreferenced name =>
    "footnote \x60" ++ name ++ "\x60 in \x60" ++ page ++ "\x60 is defined but not referenced"

/-- The body of a footnote under its escaped name. -/
structure Definition where
  name : String
  body : List Token
  deriving Repr

/-- The number a footnote is shown with, and how many references to it there are. -/
structure Usage where
  name : String
  number : Nat
  count : Nat
  deriving DecidableEq, Repr

/-- What has been collected so far. -/
structure Collector where
  /-- The definitions kept, in the order of their ends. -/
  definitions : List Definition := []
  /-- The names referred to, in the order of first reference. -/
  usages : List Usage := []
  /-- The definition the walk is inside of. -/
  current : Option Definition := none
  warnings : List Warning := []
  deriving Repr

/-- The name of a footnote as ids spell it. -/
def escapedName (token : Token) : String :=
  .ofList (escapeSpecial (token.label.getD "").toList)

/-- The id of the superscript for one reference to a footnote. -/
def referenceId (name : String) (occurrence : Nat) : String :=
  "fr-" ++ name ++ "-" ++ toString occurrence

/-- The id of the list item of a footnote. -/
def itemId (name : String) : String := "footnote-" ++ name

/-- The superscript that stands for a reference. -/
def superscript (usage : Usage) : Token :=
  .inlineHtml <|
    "<sup class=\"footnote-reference\" id=\"" ++ referenceId usage.name usage.count ++ "\">" ++
    "<a href=\"#" ++ itemId usage.name ++ "\">" ++ toString usage.number ++ "</a></sup>"

/-- Count one more reference to a name among the usages from the given number on, and give the usage
as it stands then. A new name gets the next number. -/
def countReference (name : String) (number : Nat) : List Usage → Usage × List Usage
  | [] => let usage := ⟨name, number, 1⟩; (usage, [usage])
  | usage :: rest =>
    if usage.name = name then
      let usage := { usage with count := usage.count + 1 }
      (usage, usage :: rest)
    else
      let (found, rest) := countReference name (number + 1) rest
      (found, usage :: rest)

/-- Replace the footnote references among the children of an inline token. -/
def linkChildren (usages : List Usage) : List Token → List Token × List Usage
  | [] => ([], usages)
  | child :: rest =>
    if child.kind = .footnoteReference then
      let (usage, usages) := countReference (escapedName child) 1 usages
      let (rest, usages) := linkChildren usages rest
      (superscript usage :: rest, usages)
    else
      let (rest, usages) := linkChildren usages rest
      (child :: rest, usages)

/-- Replace the footnote references in a token, which stand directly below inline tokens. -/
def linkReferences (usages : List Usage) (token : Token) : Token × List Usage :=
  match token.kind, token.children with
  | .inline, some children =>
    let (children, usages) := linkChildren usages children
    ({ token with children := some children }, usages)
  | _, _ => (token, usages)

namespace Collector

/-- End the definition the walk is inside of, keeping it if its name is new. -/
def closeDefinition (collector : Collector) : Collector :=
  match collector.current with
  | none => collector
  | some definition =>
    let collector := { collector with current := none }
    if collector.definitions.any (·.name = definition.name) then
      { collector with warnings := collector.warnings ++ [.repeated definition.name] }
    else { collector with definitions := collector.definitions ++ [definition] }

/-- Begin a definition, ending one that is still open. -/
def openDefinition (collector : Collector) (name : String) : Collector :=
  let collector :=
    if collector.current.isSome then
      closeDefinition { collector with warnings := collector.warnings ++ [.nested] }
    else collector
  { collector with current := some ⟨name, []⟩ }

/-- Take one token in; what belongs to the text of the page is handed on. -/
def step (collector : Collector) (token : Token) : Collector × List Token :=
  match token.kind with
  | .footnoteOpen => (collector.openDefinition (escapedName token), [])
  | .footnoteClose => (collector.closeDefinition, [])
  | _ =>
    let (token, usages) := linkReferences collector.usages token
    match collector.current with
    | none => ({ collector with usages }, [token])
    | some definition =>
      ({ collector with
          usages, current := some { definition with body := definition.body ++ [token] } }, [])

/-- Take in a stream of tokens and give the text of the page. -/
def collect (collector : Collector) : List Token → Collector × List Token
  | [] => (collector, [])
  | token :: rest =>
    let (collector, yielded) := collector.step token
    let (collector, body) := collector.collect rest
    (collector, yielded ++ body)

/-- Taking in two streams one after the other is taking in both at once. -/
theorem collect_append (collector : Collector) (s t : List Token) :
    collector.collect (s ++ t) =
      let (middle, first) := collector.collect s
      let (last, second) := middle.collect t
      (last, first ++ second) := by
  induction s generalizing collector with
  | nil => rfl
  | cons token rest ih => simp [collect, ih]

end Collector

end Folio.Footnote
