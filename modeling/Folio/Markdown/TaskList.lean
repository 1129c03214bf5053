import Folio.Text.Blank
import Folio.Token.Basic

/-!
# Task lists

An item whose text begins with a box, `[ ]` or `[x]`, is a task. Its tag and the tag of its list get
a class, and a checkbox takes the place of the box.
-/

namespace Folio.Markdown

open Folio.Text

/-- Whether a text begins with a box and white space of ASCII. -/
def beginsWithBox (content : String) : Bool :=
  match content.toList with
  | '[' :: c :: ']' :: d :: _ => (c = ' ' || c = 'x' || c = 'X') && isAsciiSpace d
  | _ => false

/-- The checkbox for a box with a space behind it. -/
def checkbox (content : String) : Token :=
  let tag (checked : String) : String :=
    "<input class=\"task-list-item-checkbox\" " ++ checked ++
      "disabled=\"disabled\" type=\"checkbox\">"
  Token.inlineHtml <|
    if content.startsWith "[ ] " then tag ""
    else if content.startsWith "[x] " || content.startsWith "[X] " then tag "checked=\"checked\" "
    else ""

/-- Put a checkbox in the place of the box at the beginning of a text. -/
def checkText (text : Token) : Token :=
  let dropBox (content : String) : String := (content.drop 3).toString
  let children :=
    match text.childList with
    | [] => []
    | first :: rest => { first with content := dropBox first.content } :: rest
  { text with
      content := dropBox text.content, children := some (checkbox text.content :: children) }

/-- Mark tasks. The second part tells for each list that is closed in the tokens, but not opened
there, whether it has a task, the innermost list first. -/
def markTasksFrom : List Token → List Token × List Bool
  | [] => ([], [])
  | token :: rest =>
    let (marked, lists) := markTasksFrom rest
    match token.kind with
    | .bulletListClose | .orderedListClose => (token :: marked, false :: lists)
    | .bulletListOpen | .orderedListOpen =>
      let attrs := token.attrs.set "class" (.text "contains-task-list")
      (if lists.head? = some true then { token with attrs } :: marked else token :: marked,
        lists.drop 1)
    | .listItemOpen =>
      match marked with
      | paragraph :: text :: others =>
        if paragraph.kind = .paragraphOpen && text.kind = .inline && beginsWithBox text.content then
          let attrs := token.attrs.set "class" (.text "task-list-item")
          ({ token with attrs } :: paragraph :: checkText text :: others, true :: lists.drop 1)
        else (token :: marked, lists)
      | _ => (token :: marked, lists)
    | _ => (token :: marked, lists)

/-- Mark the tasks of all lists. -/
def markTasks (tokens : List Token) : List Token := (markTasksFrom tokens).1

end Folio.Markdown
