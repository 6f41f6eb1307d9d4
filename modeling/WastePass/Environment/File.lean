import WastePass.Disk
import WastePass.Environment.Entry
import WastePass.Environment.Line

/-!
# Environment files — settings that a file adds to the environment

    The file lies in the working directory or in the nearest directory above it. Its
    entries are added one after the other, each seeing those before it, up to the first
    that is malformed. Settings that exist already stay as they are.
-/

namespace WastePass.Environment

open WastePass.Text (Bytes)

/-- The lines of a file, each with the byte that ends it. `line` holds the bytes of the
    line that is open, the latest first. -/
def splitLines (line : Bytes) : Bytes → List Bytes
  | [] => if line.isEmpty then [] else [line.reverse]
  | b :: bs =>
    if b = 10 then (b :: line).reverse :: splitLines [] bs
    else splitLines (b :: line) bs

/-- The bytes without the mark of the encoding at their front. -/
def withoutMark : Bytes → Bytes
  | 0xEF :: 0xBB :: 0xBF :: bytes => bytes
  | bytes => bytes

/-- The entries of a file, with `none` where it is not well formed. -/
def fileLines (bytes : Bytes) : List (Option (List Char)) :=
  entryLines [] .plain
    ((splitLines [] (withoutMark bytes)).map fun line =>
      (Text.Utf8.strict? line).map String.toList)

/-- Adds the settings of entries up to the first that is malformed. -/
def addEntries (env : Environment) : List (Option (List Char)) → Environment
  | [] | none :: _ => env
  | some line :: lines =>
    match readEntry env line with
    | .blank => addEntries env lines
    | .setting name value => addEntries (env.add name value) lines
    | .malformed => env

/-- The name of an environment file. -/
def fileName : String := ".env"

/-- The nearest environment file at or above a directory, whose names are given from the
    innermost on. -/
def nearestFile? (d : Disk) : List String → Option Bytes
  | [] => d.file? [fileName]
  | name :: above => (d.file? ((fileName :: name :: above).reverse)).or (nearestFile? d above)

/-- The environment completed by the environment file, if there is one. -/
def completed (env : Environment) (d : Disk) : Environment :=
  match nearestFile? d d.here.reverse with
  | none => env
  | some bytes => addEntries env (fileLines bytes)

end WastePass.Environment
