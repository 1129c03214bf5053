import Folio.File.Access

/-!
# Files in memory

A tree of files below a working directory. Directories are there because files are in them. A path
is followed part by part, so `..` behind something that is no directory leads nowhere. Around the
working directory there are only other directories.
-/

namespace Folio.File

open Folio.Text

/-- A file: the names of its directories and its own, and its bytes. -/
structure Entry where
  path : List (List Char)
  content : List UInt8

/-- The files below a working directory. -/
structure Tree where
  entries : List Entry

namespace Tree

/-- Whether a directory is there. -/
def isDirectory (tree : Tree) (path : List (List Char)) : Bool :=
  path.isEmpty || tree.entries.any fun entry =>
    path.isPrefixOf entry.path && path.length < entry.path.length

/-- The content of a file. -/
def content? (tree : Tree) (path : List (List Char)) : Option (List UInt8) :=
  (tree.entries.find? (·.path = path)).map (·.content)

/-- What is found by parts that lead out of the working directory: the directories around it, and
nothing else. -/
def outside (parts : List (List Char)) : Fault :=
  if parts.all (· = ['.', '.']) then .directory else .missing

/-- What is found by the parts of a path from the root of all directories on. -/
def fromRoot : List (List Char) → Fault
  | [] => .directory
  | part :: _ => if maxNameSize < byteCount part then .tooLong else .missing

/-- Follow the parts of a path from a place on. -/
def follow (tree : Tree) (place : List (List Char)) :
    List (List Char) → Except Fault (List (List Char))
  | [] => .ok place
  | part :: rest =>
    if tree.isDirectory place then
      if maxNameSize < byteCount part then .error .tooLong
      else if part = ['.', '.'] then
        if place = [] then .error (outside (part :: rest)) else tree.follow place.dropLast rest
      else tree.follow (place ++ [part]) rest
    else if (tree.content? place).isSome then .error .notDirectory
    else .error .missing

/-- Read the file with a path. -/
def read (tree : Tree) (path : List Char) : Except Fault (List UInt8) :=
  let parts := Path.properSegments '/' path
  match pathFault? path with
  | some fault => .error fault
  | none =>
    if path.head? = some '/' then .error (fromRoot parts)
    else
      match tree.follow [] parts with
      | .error fault => .error fault
      | .ok place =>
        match tree.content? place with
        | some content => .ok content
        | none => .error (if tree.isDirectory place then .directory else .missing)

end Tree

end Folio.File
