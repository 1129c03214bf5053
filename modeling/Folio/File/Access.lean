import Folio.Path.Portable
import Folio.Text.Quoted
import Folio.Text.Utf8

/-!
# Reading files

Whoever reads files gets a way to do so as an argument. A file that cannot be read is reported with
its path and the reason.
-/

namespace Folio.File

open Folio.Text

/-- Why a file cannot be read. -/
inductive Fault where
  | missing
  | directory
  /-- A part of the path before its end is no directory. -/
  | notDirectory
  | denied
  /-- A path, or a name in it, is longer than the system allows. -/
  | tooLong
  /-- A path with the null character in it. -/
  | nullCharacter
  /-- Another reason of the system, with its number. -/
  | other (number : Nat) (reason : String)
  deriving DecidableEq, Repr

/-- The number and the words of the system for a fault. One that the system is not asked about has
no number. -/
def Fault.reason : Fault → Option Nat × String
  | .missing => (some 2, "No such file or directory")
  | .directory => (some 21, "Is a directory")
  | .notDirectory => (some 20, "Not a directory")
  | .denied => (some 13, "Permission denied")
  | .tooLong => (some 36, "File name too long")
  | .nullCharacter => (none, "embedded null byte")
  | .other number reason => (some number, reason)

/-- Whether nothing is there under a path. -/
def Fault.isAbsence : Fault → Bool
  | .missing | .notDirectory | .nullCharacter => true
  | _ => false

/-- The wording of a fault for a path. -/
def Fault.message (fault : Fault) (path : List Char) : String :=
  match fault.reason with
  | (some number, reason) =>
    "[Errno " ++ toString number ++ "] " ++ reason ++ ": " ++ quote (.ofList path)
  | (none, reason) => reason

/-- A way to read the bytes of the file with a path. -/
abbrev Reader (m : Type → Type) := List Char → m (Except Fault (List UInt8))

/-- Why a file gives no text. -/
inductive ReadError where
  | fault (fault : Fault) (path : List Char)
  | notText (error : DecodeError)
  deriving DecidableEq, Repr

/-- The wording of a reading error. -/
def ReadError.message : ReadError → String
  | .fault reason path => reason.message path
  | .notText error => error.message

/-- The most bytes of a name. -/
def maxNameSize : Nat := 255

/-- The number of bytes from which on a path is too long. -/
def pathLimit : Nat := 4096

/-- The number of bytes of a text. -/
def byteCount (cs : List Char) : Nat := cs.foldl (fun count c => count + c.utf8Size) 0

/-- What is wrong with a path as it is written. -/
def pathFault? (path : List Char) : Option Fault :=
  if path.contains '\x00' then some .nullCharacter
  else if pathLimit ≤ byteCount path then some .tooLong
  else none

/-- The text of a file. -/
def textOf (path : List Char) (content : Except Fault (List UInt8)) :
    Except ReadError (List Char) :=
  match content with
  | .error fault => .error (.fault fault path)
  | .ok bytes =>
    match decode bytes with
    | .error error => .error (.notText error)
    | .ok text => .ok (universalNewlines text)

/-- A path below another one; an absolute path stays as it is. -/
def joinPath (root path : List Char) : List Char :=
  if path.head? = some '/' then Path.posixText path
  else
    let root := Path.posixText root
    Path.posixText (root ++ (if root.getLast? = some '/' then [] else ['/']) ++ path)

end Folio.File
