import Folio.Markdown.Extensions
import Folio.Page.Context
import Folio.Text.Blank
import Folio.Yaml.Value

/-!
# Configuration

A configuration switches Markdown extensions and lists redirects. Both sections are mappings of a
document. Building is all or nothing: the first entry that does not fit is the error. A later entry
for the same extension or source takes the place of an earlier one.
-/

namespace Folio.Config

open Folio.Markdown Folio.Page Folio.Text Folio.Yaml

/-- What a book is rendered with. -/
structure Settings where
  extensions : Extensions := {}
  redirects : List Redirect := []
  deriving Repr

/-- Why a document is no configuration. -/
inductive ConfigError where
  | sectionNotMapping (name : String)
  | unknownExtension (key : String)
  /-- The value of an extension is neither true nor false. -/
  | notSwitch (key : String)
  /-- The source or the target of a redirect is not a text, or blank. -/
  | badRedirect (source : String)
  deriving DecidableEq, Repr

/-- The wording of a configuration error. -/
def ConfigError.message : ConfigError → String
  | .sectionNotMapping name => "Section '" ++ name ++ "' must be a mapping."
  | .unknownExtension key =>
    "Unknown markdown extension '" ++ key ++ "'. Known extensions: " ++
      ", ".intercalate (Extension.all.map (·.name))
  | .notSwitch key => "Markdown extension '" ++ key ++ "' must be true or false."
  | .badRedirect source => "Redirect '" ++ source ++ "' must map a path to a non-empty string."

/-- The name of an extension in its usual spelling: without blanks around it, and with underscores
for hyphens. -/
def extensionName (key : Value) : String :=
  .ofList ((strip key.keyText.toList).map fun c => if c = '-' then '_' else c)

/-- The extension that a key names. -/
def extensionOf? (key : Value) : Option Extension := Extension.ofName? (extensionName key)

/-- Switch the extension of one entry. -/
def addExtension (extensions : Extensions) (entry : Value × Value) :
    Except ConfigError Extensions :=
  match extensionOf? entry.1, entry.2 with
  | none, _ => .error (.unknownExtension entry.1.keyText)
  | some extension, .bool on => .ok (extensions.set extension on)
  | some _, _ => .error (.notSwitch entry.1.keyText)

/-- The extensions that a section switches. -/
def buildExtensions (entries : List (Value × Value)) : Except ConfigError Extensions :=
  entries.foldlM addExtension {}

/-- A redirect as a section spells it. Sources are told apart by their code points, so escapes that
spell halves of surrogate pairs count. -/
structure Move where
  source : CodePoints
  target : CodePoints
  deriving DecidableEq, Repr

/-- The entry of the redirect table. -/
def Move.redirect (move : Move) : Redirect := ⟨move.source.chars, move.target.chars⟩

/-- Put a redirect behind others; one from the same source keeps its place. -/
def putMove (move : Move) : List Move → List Move
  | [] => [move]
  | first :: rest => if first.source = move.source then move :: rest else first :: putMove move rest

/-- The code points of a value that is a text. -/
def codePoints? : Value → Option CodePoints
  | .text s => some (codePoints s.toList)
  | .halved codes => some codes
  | _ => none

/-- Whether a code point is that of a blank; a half of a surrogate pair is none. -/
def isBlankCode (code : Nat) : Bool := (charOf? code).any isBlank

/-- Drop the blanks at both ends. -/
def stripCodes (codes : CodePoints) : CodePoints :=
  ((codes.dropWhile isBlankCode).reverse.dropWhile isBlankCode).reverse

/-- A text without blanks around it, unless nothing else is in it. -/
def properText? (value : Value) : Option CodePoints :=
  match codePoints? value with
  | some codes => if stripCodes codes = [] then none else some (stripCodes codes)
  | none => none

/-- Add the redirect of one entry. -/
def addMove (moves : List Move) (entry : Value × Value) : Except ConfigError (List Move) :=
  match properText? entry.1, properText? entry.2 with
  | some source, some target => .ok (putMove ⟨source, target⟩ moves)
  | _, _ => .error (.badRedirect entry.1.keyText)

/-- The redirects that a section lists, with different sources. -/
def buildMoves (entries : List (Value × Value)) : Except ConfigError (List Move) :=
  entries.foldlM addMove []

/-- The redirect table of a section. -/
def buildRedirects (entries : List (Value × Value)) : Except ConfigError (List Redirect) :=
  (buildMoves entries).map (·.map Move.redirect)

/-- The settings that two sections give. -/
def build (markdown redirects : List (Value × Value)) : Except ConfigError Settings := do
  let extensions ← buildExtensions markdown
  return { extensions, redirects := ← buildRedirects redirects }

/-- The entries of a section. A section that is missing or counts as nothing has none. -/
def sectionEntries (name : String) (document : List (Value × Value)) :
    Except ConfigError (List (Value × Value)) :=
  match document.find? fun entry => entry.1.sameKey (.text name) with
  | none => .ok []
  | some (_, .mapping entries) => .ok entries
  | some (_, value) => if value.isEmpty then .ok [] else .error (.sectionNotMapping name)

/-- The settings that the entries of a document give. -/
def ofDocument (document : List (Value × Value)) : Except ConfigError Settings := do
  let markdown ← sectionEntries "markdown" document
  let redirects ← sectionEntries "redirects" document
  build markdown redirects

end Folio.Config
