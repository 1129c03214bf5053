/-!
# Markdown extensions

The switches for syntax beyond the core of Markdown. Each has a name, under which a configuration
turns it on or off.
-/

namespace Folio.Markdown

/-- A part of the syntax that can be switched. -/
inductive Extension where
  | footnotes
  | headingAttributes
  | smartPunctuation
  | strikethrough
  | tables
  | taskLists
  deriving DecidableEq, Repr

namespace Extension

/-- All extensions, ordered by name. -/
def all : List Extension :=
  [.footnotes, .headingAttributes, .smartPunctuation, .strikethrough, .tables, .taskLists]

/-- The name in a configuration. -/
def name : Extension → String
  | .footnotes => "footnotes"
  | .headingAttributes => "heading_attributes"
  | .smartPunctuation => "smart_punctuation"
  | .strikethrough => "strikethrough"
  | .tables => "tables"
  | .taskLists => "tasklists"

/-- The extension with a name. -/
def ofName? (name : String) : Option Extension := all.find? (·.name == name)

end Extension

/-- Which extensions are on. By default all are but smart punctuation. -/
structure Extensions where
  tables : Bool := true
  footnotes : Bool := true
  strikethrough : Bool := true
  taskLists : Bool := true
  headingAttributes : Bool := true
  smartPunctuation : Bool := false
  deriving DecidableEq, Repr

namespace Extensions

/-- Whether an extension is on. -/
def get (extensions : Extensions) : Extension → Bool
  | .footnotes => extensions.footnotes
  | .headingAttributes => extensions.headingAttributes
  | .smartPunctuation => extensions.smartPunctuation
  | .strikethrough => extensions.strikethrough
  | .tables => extensions.tables
  | .taskLists => extensions.taskLists

/-- Switch an extension. -/
def set (extensions : Extensions) (extension : Extension) (on : Bool) : Extensions :=
  match extension with
  | .footnotes => { extensions with footnotes := on }
  | .headingAttributes => { extensions with headingAttributes := on }
  | .smartPunctuation => { extensions with smartPunctuation := on }
  | .strikethrough => { extensions with strikethrough := on }
  | .tables => { extensions with tables := on }
  | .taskLists => { extensions with taskLists := on }

end Extensions

end Folio.Markdown
