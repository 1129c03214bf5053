import Folio.Footnote.Collect

/-!
# The footnote list

The footnotes that a page refers to are listed behind its text in the order of their numbers. Behind
the body of each stand links back to its references, inside the last paragraph if the body ends with
one.
-/

namespace Folio.Footnote

/-- What stands between the page's own prefix and the rest of an anchor. -/
def anchorPrefix (pageId : String) : String := if pageId = "" then "" else pageId ++ "-"

/-- The link back to one reference; from the second on it is numbered. -/
def backlink (pageId name : String) (occurrence : Nat) : Token :=
  .html <|
    " <a href=\"#" ++ anchorPrefix pageId ++ referenceId name occurrence ++ "\">↩" ++
    (if occurrence = 1 then "" else toString occurrence) ++ "</a>"

/-- Put a token in front of the last one if that closes a paragraph, else behind all. -/
def insertInside (tokens : List Token) (token : Token) : List Token :=
  match tokens.getLast? with
  | some last =>
    if last.kind = .paragraphClose then tokens.dropLast ++ [token, last] else tokens ++ [token]
  | none => [token]

/-- The tokens of one list item. The links back are put in one after the other. -/
def itemTokens (pageId : String) (usage : Usage) (definition : Definition) : List Token :=
  let opening := .html ("<li id=\"" ++ itemId definition.name ++ "\">")
  let backlinks := (List.range' 1 usage.count).map (backlink pageId definition.name)
  backlinks.foldl insertInside (opening :: definition.body) ++ [.html "</li>\n"]

namespace Collector

/-- The usage of a definition's name, if anything refers to it. -/
def usage? (collector : Collector) (definition : Definition) : Option Usage :=
  collector.usages.find? (·.name = definition.name)

/-- The definitions that are referred to, each with its usage, ordered by number. -/
def listed (collector : Collector) : List (Usage × Definition) :=
  let pairs := collector.definitions.filterMap fun definition =>
    (collector.usage? definition).map (·, definition)
  pairs.mergeSort fun a b => a.1.number ≤ b.1.number

/-- The warnings about definitions that nothing refers to. -/
def unreferencedWarnings (collector : Collector) : List Warning :=
  collector.definitions.filterMap fun definition =>
    if (collector.usage? definition).isNone then some (.unreferenced definition.name) else none

/-- The footnote list as HTML, empty if no definition is referred to. -/
def appendix (collector : Collector) (pageId : String) (serialize : List Token → String) : String :=
  match collector.listed with
  | [] => ""
  | items =>
    "<hr>\n<ol class=\"footnote-definition\">" ++
      String.join (items.map fun item => serialize (itemTokens pageId item.1 item.2)) ++ "</ol>"

end Collector

end Folio.Footnote
