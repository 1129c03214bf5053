import Folio.Path.Normal

/-!
# Paths of two file systems

A chapter path may come as a path of a system with slashes or of one with drives and backslashes.
Both have a spelling with slashes: empty and `.` segments are dropped and `..` is kept. Of a path
with drives, the drive or the share and the root are kept in front.
-/

namespace Folio.Path

open Folio.Text

/-- The segments that a path consists of: those that are neither empty nor `.`. -/
def properSegments (mark : Char) (path : List Char) : List (List Char) :=
  (splitAt mark path).filter fun segment => segment ≠ [] ∧ segment ≠ ['.']

/-- A root and segments as one text; a path without either is `.`. -/
def withRoot (mark : Char) (root : List Char) (segments : List (List Char)) : List Char :=
  match root ++ joinWith [mark] segments with
  | [] => ['.']
  | text => text

/-- The spelling of a path with slashes. Exactly two slashes in front are a root of their own. -/
def posixText (path : List Char) : List Char :=
  let root :=
    match path.takeWhile (· = '/') with
    | [] => []
    | ['/', '/'] => ['/', '/']
    | _ => ['/']
  withRoot '/' root (properSegments '/' path)

/-- The parts in front of the segments of a path with drives. -/
structure Anchored where
  /-- The drive, or the server and share. -/
  drive : List Char
  /-- Whether the path starts at the root of its drive. -/
  rooted : Bool
  /-- The text behind drive and root. -/
  rest : List Char

/-- The server and the share that a text begins with, and the text behind the share. Neither name
may be missing a backslash before it, and the share may not begin with one. -/
def share? : List Char → Option (List Char × List Char)
  | '\\' :: '\\' :: cs =>
    if cs.head? = some '\\' then none
    else
      match cutAt '\\' cs with
      | (_, none) => none
      | (server, some behind) =>
        if behind.head? = some '\\' then none
        else
          let (name, rest) := cutAt '\\' behind
          some ('\\' :: '\\' :: server ++ '\\' :: name, rest.getD [])
  | _ => none

/-- Split off a drive letter and a root. -/
def splitDrive (path : List Char) : Anchored :=
  let (drive, behind) :=
    match path with
    | c :: ':' :: cs => if c.isAlpha then ([c, ':'], cs) else ([], path)
    | _ => ([], path)
  if behind.head? = some '\\' then ⟨drive, true, behind.dropWhile (· = '\\')⟩
  else ⟨drive, false, behind⟩

/-- Split off what stands in front of the segments. A path that begins with `\\?\` keeps that mark
in front of its drive, and `\\?\UNC` stands for the first backslash of a server. -/
def splitAnchor (path : List Char) : Anchored :=
  let (mark, body) :=
    match path with
    | '\\' :: '\\' :: '?' :: '\\' :: 'U' :: 'N' :: 'C' :: '\\' :: cs =>
      ("\\\\?\\UNC".toList, '\\' :: '\\' :: cs)
    | '\\' :: '\\' :: '?' :: '\\' :: cs => ("\\\\?\\".toList, cs)
    | _ => ([], path)
  match share? body with
  | some (drive, rest) => ⟨mark ++ (if mark = [] then drive else drive.drop 1), true, rest⟩
  | none =>
    let anchored := splitDrive body
    { anchored with drive := mark ++ anchored.drive }

/-- The spelling with slashes of a path with drives and backslashes. -/
def windowsText (path : List Char) : List Char :=
  let anchored := splitAnchor (path.map fun c => if c = '/' then '\\' else c)
  let root := anchored.drive ++ if anchored.rooted then ['\\'] else []
  (withRoot '\\' root (properSegments '\\' anchored.rest)).map
    fun c => if c = '\\' then '/' else c

end Folio.Path
