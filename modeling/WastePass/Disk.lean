import WastePass.Text.Utf8

/-!
# The disk — files and directories, found by their paths

    A place is the list of names that leads to it from the top. Files are kept with
    their places; a directory is there when a file or the working directory lies in it.
    A path is walked name by name, so every directory on the way has to exist, also
    one that the next step leaves again.
-/

namespace WastePass

open WastePass.Text (Bytes Utf8.strict?)

/-- Why a file cannot be used. -/
inductive DiskFault where
  | notFound
  | notDirectory
  | isDirectory
  | nameTooLong
  | nulInPath
  | notUtf8
  deriving DecidableEq, Repr

namespace DiskFault

/-- What is reported about a fault. -/
def message : DiskFault → String
  | .notFound     => "No such file or directory (os error 2)"
  | .notDirectory => "Not a directory (os error 20)"
  | .isDirectory  => "Is a directory (os error 21)"
  | .nameTooLong  => "File name too long (os error 36)"
  | .nulInPath    => "file name contained an unexpected NUL byte"
  | .notUtf8      => "stream did not contain valid UTF-8"

end DiskFault

/-- The way to a place as it is written. An absolute one begins at the top, any other at the
    working directory; a slash at the end says that it leads to a directory. -/
structure Path where
  absolute : Bool
  names : List String
  toDirectory : Bool
  deriving DecidableEq, Repr

namespace Path

/-- The greatest number of bytes in a path. -/
def maxBytes : Nat := 4095

/-- The greatest number of bytes in a name. -/
def maxNameBytes : Nat := 255

/-- The parts of a text between slashes. -/
def parts (text : String) : List String :=
  (text.toList.splitOnP (· = '/')).map String.ofList

/-- Reads a path. Slashes in a row count as one. -/
def read (text : String) : Except DiskFault Path :=
  if text.toList.contains '\x00' then .error .nulInPath
  else if text = "" then .error .notFound
  else if maxBytes < text.utf8ByteSize then .error .nameTooLong
  else .ok
    { absolute := text.toList.head? = some '/'
      names := (parts text).filter (· ≠ "")
      toDirectory := text.toList.getLast? = some '/' }

end Path

/-- Files at their places, and the working directory that relative paths begin at. -/
structure Disk where
  files : List (List String × Bytes)
  here : List String
  deriving DecidableEq

namespace Disk

/-- The bytes of the file at a place. -/
def file? (d : Disk) (place : List String) : Option Bytes :=
  (d.files.find? fun f => f.1 = place).map (·.2)

/-- There is a directory at the place. -/
def isDirectory (d : Disk) (place : List String) : Bool :=
  place.isPrefixOf d.here || d.files.any fun f => place.isPrefixOf f.1 && place ≠ f.1

/-- There is a file or a directory at the place. -/
def isThere (d : Disk) (place : List String) : Bool :=
  d.isDirectory place || (d.file? place).isSome

/-- The place that a name leads to, where something may or may not be. -/
def toward (d : Disk) (place : List String) (name : String) :
    Except DiskFault (List String) :=
  if !d.isDirectory place then .error .notDirectory
  else if name = "." then .ok place
  else if name = ".." then .ok place.dropLast
  else if Path.maxNameBytes < name.utf8ByteSize then .error .nameTooLong
  else .ok (place ++ [name])

/-- The place that a name leads to, where something has to be. -/
def enter (d : Disk) (place : List String) (name : String) :
    Except DiskFault (List String) := do
  let next ← d.toward place name
  if d.isThere next then return next else throw .notFound

/-- Where a path begins. -/
def origin (d : Disk) (path : Path) : List String :=
  if path.absolute then [] else d.here

/-- Reads a file. -/
def read (d : Disk) (text : String) : Except DiskFault Bytes := do
  let path ← Path.read text
  let place ← path.names.foldlM d.enter (d.origin path)
  match d.file? place with
  | none => throw .isDirectory
  | some bytes => if path.toDirectory then throw .notDirectory else return bytes

/-- Reads a file as a text. -/
def readText (d : Disk) (text : String) : Except DiskFault String := do
  match Utf8.strict? (← d.read text) with
  | some content => return content
  | none => throw .notUtf8

/-- The disk with these bytes at a place and all other files as they are. -/
def write (d : Disk) (place : List String) (bytes : Bytes) : Disk :=
  if (d.file? place).isSome then
    { d with files := d.files.map fun f => if f.1 = place then (place, bytes) else f }
  else { d with files := d.files ++ [(place, bytes)] }

/-- The place of a file that is going to be added to, which need not exist yet. -/
def placeToAppend (d : Disk) (text : String) : Except DiskFault (List String) := do
  let path ← Path.read text
  match path.names.getLast? with
  | none => throw .isDirectory
  | some name =>
    let directory ← path.names.dropLast.foldlM d.enter (d.origin path)
    let place ← d.toward directory name
    if path.toDirectory || d.isDirectory place then throw .isDirectory
    else return place

/-- The disk with bytes added at the end of the file at a place. -/
def append (d : Disk) (place : List String) (bytes : Bytes) : Disk :=
  d.write place ((d.file? place).getD [] ++ bytes)

end Disk

end WastePass
