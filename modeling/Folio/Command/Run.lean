import Folio.Book.PrintPage
import Folio.Command.Arguments
import Folio.Command.Log
import Folio.Config.Load

/-!
# Running a command

A command loads the configuration, reads its files and renders them. The first thing that fails ends
it with an error in the log and no output; a few errors end it without a word.
-/

namespace Folio.Command

open Folio.Book Folio.Config Folio.Text

/-- How a run ends. -/
inductive Status where
  | success
  | failure
  /-- The arguments are not in order. -/
  | misuse
  /-- An error that is not reported. -/
  | aborted (error : LoadError)
  deriving DecidableEq, Repr

/-- The exit code of a status. -/
def Status.code : Status → Nat
  | .success => 0
  | .failure => 1
  | .misuse => 2
  | .aborted _ => 1

/-- What a run gives. -/
structure Result where
  status : Status
  output : String := ""
  log : List Record := []

/-- The switches of all extensions, as the log shows them. -/
def extensionsText (extensions : Markdown.Extensions) : String :=
  let order : List Markdown.Extension :=
    [.tables, .footnotes, .strikethrough, .taskLists, .headingAttributes, .smartPunctuation]
  let spell (extension : Markdown.Extension) : String :=
    extension.name ++ "=" ++ if extensions.get extension then "True" else "False"
  "MarkdownExtensions(" ++ ", ".intercalate (order.map spell) ++ ")"

/-- What a verbose run says about its settings. -/
def settingsRecord (settings : Settings) : Record :=
  ⟨.debug, "rendering with " ++ extensionsText settings.extensions ++ " and " ++
    toString settings.redirects.length ++ " redirect(s)"⟩

/-- A run that fails after some records. -/
def failed (log : List Record) (message : String) : Result :=
  { status := .failure, log := log ++ errorRecords [message] }

/-- The records of warnings. -/
def warningRecords (warnings : List String) : List Record := warnings.map (⟨.warning, ·⟩)

/-- Render one file. -/
def finishRender (renderer : Renderer) (pagePath : Option String) (log : List Record)
    (text : List Char) : Result :=
  let path := pagePath.map fun path => path.toList.map RawUnit.char
  match renderer.render path none (.ofList text) with
  | .error error => failed log error.message
  | .ok page =>
    { status := .success, output := page.html, log := log ++ warningRecords page.warnings }

/-- Render chapters as one page. -/
def finishPrint (renderer : Renderer) (log : List Record) (chapters : List (String × List Char)) :
    Result :=
  let page := renderer.renderPrintPage {} <| chapters.map fun (path, text) =>
    ⟨some (path.toList.map .char), .ofList text⟩
  let log := log ++ warningRecords page.warnings
  match page.html with
  | .error error => failed log error.message
  | .ok output => { status := .success, output, log }

section

variable {m : Type → Type} [Monad m] (readFile : File.Reader m)

/-- Read the texts of files below a directory, up to the first one that cannot be read. -/
def readTexts (root : String) : List String → m (Except File.ReadError (List (String × List Char)))
  | [] => return .ok []
  | path :: rest => do
    let place := File.joinPath root.toList path.toList
    match File.textOf place (← readFile place) with
    | .error error => return .error error
    | .ok text => return (← readTexts root rest).map ((path, text) :: ·)

/-- Carry out a task. -/
def runTask (renderer : Renderer) (log : List Record) : Task → m Result
  | .render source pagePath => do
    let place := Path.posixText source.toList
    match File.textOf place (← readFile place) with
    | .error error => return failed log error.message
    | .ok text => return finishRender renderer pagePath log text
  | .print root chapters => do
    match ← readTexts readFile root chapters with
    | .error error => return failed log error.message
    | .ok chapters => return finishPrint renderer log chapters

/-- The settings of a run; without a configuration file they are the default ones. -/
def settingsOf (path : Option String) : m (Except LoadError Settings) :=
  match path with
  | none => return .ok {}
  | some path => loadFile readFile path.toList

/-- Run a command with its arguments and the environment. -/
def run (environment : String → Option String) (arguments : List String) : m Result :=
  match parse environment arguments with
  | none => return { status := .misuse }
  | some invocation => do
    match ← settingsOf readFile invocation.config with
    | .error error =>
      return if error.isReported then failed [] error.message else { status := .aborted error }
    | .ok settings =>
      let log := if invocation.verbose then [settingsRecord settings] else []
      runTask readFile (.markdown settings.extensions settings.redirects) log invocation.task

end

end Folio.Command
