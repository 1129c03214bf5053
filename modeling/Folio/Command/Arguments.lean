import Folio.Number.Read
import Folio.Text.Blank
import Folio.Text.Search

/-!
# Command-line arguments

Two commands share the same manner of arguments: options by name, before or behind the positional
arguments, with their value in the same argument or in the next one. Variables of the environment
stand in for what is missing.
-/

namespace Folio.Command

open Folio.Number Folio.Text

/-- What to do. -/
inductive Task where
  /-- Render one file, for the print page if a page path is given. -/
  | render (source : String) (pagePath : Option String)
  /-- Render chapters below a directory as one page. -/
  | print (root : String) (chapters : List String)
  deriving DecidableEq, Repr

/-- A task with its settings. -/
structure Invocation where
  task : Task
  config : Option String
  verbose : Bool
  deriving DecidableEq, Repr

/-- What the names of environment variables begin with. -/
def environmentPrefix : String := "BOOKPRESS_"

/-- The name of the environment variable for an option. -/
def variableName (option : String) : String :=
  environmentPrefix ++ option.map fun c => if c = '-' then '_' else c.toUpper

/-- The arguments of a command. -/
structure Shape where
  /-- The positional argument that is required, which may be given by name. -/
  first : String
  /-- The name of further positional arguments, if any may follow. -/
  others : Option String
  /-- Further options with a value. -/
  valued : List String

/-- The switch of all commands. -/
def switchName : String := "verbose"

/-- The name that turns the switch off. -/
def offName : String := "no-" ++ switchName

/-- The commands with their arguments. -/
def shapeOf? (command : String) : Option Shape :=
  match command with
  | "render" => some ⟨"source", none, ["page-path", "config"]⟩
  | "print" => some ⟨"root", some "chapters", ["config"]⟩
  | _ => none

/-- The variables of the environment that arguments may be taken from. -/
def variableNames : List String :=
  ["source", "root", "chapters", "page-path", "config", switchName, offName].map variableName

/-- Arguments by name, and those without one in order. -/
structure Given where
  named : List (String × String) := []
  switched : Option Bool := none
  positional : List String := []

/-- Whether a text is an integer in base two, eight or sixteen with the mark of its base. -/
def isMarked (cs : List Char) : Bool :=
  [2, 8, 16].any fun base =>
    (behindBaseMark? base (dropSign (dropMargins cs)).2).isSome && (readInteger base cs).isOk

/-- Whether a text is a range: two or three integers between colons, each of which may be missing.
-/
def isRange (cs : List Char) : Bool :=
  let parts := splitAt ':' cs
  (parts.length = 2 || parts.length = 3) &&
    parts.all fun part => part = [] || (readInteger 10 part).isOk

/-- Whether an argument looks like an option. A negative number does not, nor does a range; but the
imaginary unit with its sign does. -/
def isOption (argument : String) : Bool :=
  let cs := argument.toList
  let isNumber := isComplex cs || isMarked cs || isRange cs
  cs.head? = some '-' && (argument = "-j" || argument = "-J" || !isNumber)

/-- What a word says about a switch. -/
def truth? (word : String) : Option Bool :=
  let word := word.toLower
  if ["yes", "y", "1", "true", "t"].contains word then some true
  else if ["no", "n", "0", "false", "f"].contains word then some false
  else none

/-- Add a value by name, unless there is one. -/
def Given.setNamed (given : Given) (name value : String) : Option Given :=
  if (given.named.lookup name).isSome then none
  else some { given with named := given.named ++ [(name, value)] }

/-- Set the switch, unless it is set; a value in the argument may reverse it. -/
def Given.setSwitch (given : Given) (on : Bool) (value : Option String) : Option Given :=
  if given.switched.isSome then none
  else
    match value with
    | none => some { given with switched := some on }
    | some word => (truth? word).map fun same => { given with switched := some (on == same) }

/-- What an argument that looks like an option is: the switch or an option with a value, and the
value if it stands in the argument. -/
inductive Named where
  | switch (on : Bool) (value : Option String)
  | option (name : String) (value : Option String)
  deriving DecidableEq, Repr

/-- What an argument that looks like an option is. Underscores in its name count as hyphens. -/
def Named.ofArgument? (shape : Shape) (argument : String) : Option Named :=
  let (written, value) := cutAt '=' argument.toList
  let name := String.ofList (written.map fun c => if c = '_' then '-' else c)
  let value := value.map String.ofList
  if name = "--" ++ switchName then some (.switch true value)
  else if name = "--" ++ offName then some (.switch false value)
  else
    ((shape.first :: shape.valued).find? fun option => name = "--" ++ option).map (.option · value)

/-- Read arguments, the next of which is the value of the option `waiting` if there is one. Nothing
is given if an argument is not known, has no value or is repeated. -/
def read (shape : Shape) (given : Given) (waiting : Option String) : List String → Option Given
  | [] => if waiting.isSome then none else some given
  | argument :: rest =>
    match waiting with
    | some name =>
      if argument = "--" || isOption argument then none
      else (given.setNamed name argument).bind fun given => read shape given none rest
    | none =>
      if argument = "--" then some { given with positional := given.positional ++ rest }
      else if isOption argument then
        match Named.ofArgument? shape argument with
        | none => none
        | some (.switch on value) =>
          (given.setSwitch on value).bind fun given => read shape given none rest
        | some (.option name none) => read shape given (some name) rest
        | some (.option name (some value)) =>
          (given.setNamed name value).bind fun given => read shape given none rest
      else read shape { given with positional := given.positional ++ [argument] } none rest

/-- The value of an option: as it is given, or from the environment. -/
def Given.value? (given : Given) (environment : String → Option String) (option : String) :
    Option String :=
  (given.named.lookup option).orElse fun _ => environment (variableName option)

/-- The switch: as it is given, or from the environment, or off. The variable of the name that turns
it off sets it to what its own word says; only one of the two variables may be there. -/
def Given.switch? (given : Given) (environment : String → Option String) : Option Bool :=
  let turnedOn := environment (variableName switchName)
  let turnedOff := environment (variableName offName)
  match given.switched, turnedOn, turnedOff with
  | some on, _, _ => some on
  | none, some _, some _ => none
  | none, some word, none | none, none, some word => truth? word
  | none, none, none => some false

/-- The words of a variable of the environment. -/
def wordsOf (environment : String → Option String) (name : String) : List String :=
  let pieces := ((environment (variableName name)).getD "").toList.splitOnP isBlank
  (pieces.filter (· ≠ [])).map String.ofList

/-- The required argument and the positional ones behind it. -/
def Given.split? (given : Given) (environment : String → Option String) (shape : Shape) :
    Option (String × List String) :=
  match given.named.lookup shape.first, given.positional with
  | some first, others => some (first, others)
  | none, first :: others => some (first, others)
  | none, [] => (environment (variableName shape.first)).map (·, [])

/-- What the arguments and the environment ask for; nothing if the arguments are not in order. -/
def parse (environment : String → Option String) : List String → Option Invocation
  | [] => none
  | command :: arguments => do
    let shape ← shapeOf? command
    let given ← read shape {} none arguments
    let verbose ← given.switch? environment
    let (first, others) ← given.split? environment shape
    let config := given.value? environment "config"
    match shape.others with
    | some name =>
      let others := if others = [] then wordsOf environment name else others
      return ⟨.print first others, config, verbose⟩
    | none =>
      if others = [] then
        return ⟨.render first (given.value? environment "page-path"), config, verbose⟩
      else none

end Folio.Command
