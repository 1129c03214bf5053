import Folio.Config.Build
import Folio.File.Access
import Folio.Yaml.Load

/-!
# Configuration files

A configuration file holds one document. An empty one gives the default settings.
-/

namespace Folio.Config

open Folio.Text Folio.Yaml

/-- Why a file gives no configuration. -/
inductive LoadError where
  | notFound (path : List Char)
  | unreadable (error : File.ReadError)
  | malformed (problem : Problem)
  /-- The document is not a mapping. -/
  | notMapping
  | invalid (error : ConfigError)
  deriving DecidableEq, Repr

/-- What a part of a date has to be. -/
def dateMessage : DatePart → String
  | .year => "year 0 is out of range"
  | .month => "month must be in 1..12"
  | .day => "day is out of range for month"
  | .hour => "hour must be in 0..23"
  | .minute => "minute must be in 0..59"
  | .second => "second must be in 0..59"
  | .offset minutes =>
    "offset must be a timedelta strictly between -timedelta(hours=24) and timedelta(hours=24), not "
      ++ spanText minutes ++ "."

/-- The name of a kind of collection. -/
def collectionName : CollectionKind → String
  | .sequence => "list"
  | .mapping => "dict"
  | .ordered => "ordereddict"
  | .set => "set"

/-- A text between quotes, cut off behind two hundred characters. -/
def shortQuote (text : String) : String := .ofList ((quote text).toList.take 200)

/-- The wording of a problem of a document. -/
def problemMessage : Problem → String
  | .badCharacter => "special characters are not allowed"
  | .badLexeme => "unexpected character"
  | .badStructure => "unexpected element"
  | .badCodePoint => "chr() arg not in range(0x110000)"
  | .hugeCodePoint => "Python int too large to convert to C int"
  | .unknownVersion minor =>
    "version minor part can only be 2 or 1, got (1, " ++ toString minor ++ ")"
  | .unknownAlias => "found undefined alias"
  | .unknownTag => "could not determine a constructor for the tag"
  | .wrongKind => "the value does not fit its tag"
  | .repeatedKey => "found duplicate key"
  | .repeatedOrderedKey => ""
  | .badKey => "found unhashable key"
  | .nestedKey kind => "unhashable type: '" ++ collectionName kind ++ "'"
  | .badTruth word => quote word
  | .badDate part => dateMessage part
  | .lateDate => "date value out of range"
  | .badInteger base text =>
    "invalid literal for int() with base " ++ toString base ++ ": " ++ shortQuote text
  | .longInteger digits =>
    "Exceeds the limit (" ++ toString Number.maxDigits ++
      " digits) for integer string conversion: value has " ++ toString digits ++
      " digits; use sys.set_int_max_str_digits() to increase the limit"
  | .badNumber text => "could not convert string to float: " ++ quote text
  | .manyExponents => "too many values to unpack (expected 2)"
  | .emptyNumber => "string index out of range"

/-- Whether a program reports a problem; others end it at once. -/
def isReported : Problem → Bool
  | .badTruth _ | .emptyNumber | .hugeCodePoint | .lateDate => false
  | .repeatedOrderedKey | .unknownVersion _ => false
  | _ => true

/-- Whether a program reports an error. -/
def LoadError.isReported : LoadError → Bool
  | .malformed problem => Config.isReported problem
  | _ => true

/-- The wording of a loading error. -/
def LoadError.message : LoadError → String
  | .notFound path => "Configuration file '" ++ .ofList path ++ "' not found."
  | .unreadable error => error.message
  | .malformed problem => problemMessage problem
  | .notMapping => "Top-level YAML structure must be a mapping."
  | .invalid error => error.message

/-- A fault as it shows when a file is read in parts: a character that is cut off at the end is all
that is left to decode, so its position is counted from its own beginning. -/
def lateFault (error : DecodeError) : DecodeError :=
  if error.fault = .unexpectedEnd then { error with position := 0 } else error

/-- How deep a configuration is looked into: the document, its sections, and their entries. -/
def documentDepth : Nat := 2

/-- The settings in a text. -/
def ofText (text : List Char) : Except LoadError Settings :=
  match load documentDepth text with
  | .error problem => .error (.malformed problem)
  | .ok (.mapping document) =>
    match ofDocument document with
    | .ok settings => .ok settings
    | .error error => .error (.invalid error)
  | .ok value => if value.isEmpty then .ok {} else .error .notMapping

/-- The settings in a file with a path. -/
def ofContent (path : List Char) (content : Except File.Fault (List UInt8)) :
    Except LoadError Settings :=
  match File.textOf path content with
  | .ok text => ofText text
  | .error (.notText error) => .error (.unreadable (.notText (lateFault error)))
  | .error (.fault fault path) =>
    .error (if fault.isAbsence then .notFound path else .unreadable (.fault fault path))

/-- Load the configuration file with a path. -/
def loadFile {m : Type → Type} [Monad m] (read : File.Reader m) (path : List Char) :
    m (Except LoadError Settings) := do
  let path := Path.posixText path
  return ofContent path (← read path)

end Folio.Config
