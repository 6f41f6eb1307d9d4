import WastePass.Json.Shape
import WastePass.Tables.Draft

/-!
# Table documents — a configuration written as JSON

    A document lists the entries of the three tables. Its shape is checked while it is
    read, its district names when all of it has been read, and its entries last, as a
    draft. Which fields may be left out, and that unknown fields are refused only at
    the top, is said by the records below.
-/

namespace WastePass.Tables

open Json (Record Member Reader)

/-- What is left of a document once its shape has been checked. -/
structure Document where
  districts : List (String × List (String × String))
  passNumbers : List (String × String)
  exceptions : List ((String × String) × List String)
  deriving DecidableEq, Repr

namespace Document

/-- Two fields of an entry, as far as they have been read. -/
structure Halves (α β : Type) where
  first : Option α := none
  second : Option β := none

/-- The first field of an entry. -/
def firstField {α β : Type} (name : String) (value : Reader α) : Member (Halves α β) where
  name := name
  optional := false
  isSet s := s.first.isSome
  read s := do return { s with first := some (← value) }

/-- The second field of an entry. -/
def secondField {α β : Type} (name : String) (optional : Bool) (value : Reader β) :
    Member (Halves α β) where
  name := name
  optional := optional
  isSet s := s.second.isSome
  read s := do return { s with second := some (← value) }

/-- Two bounds. -/
def bounds : Reader (String × String) :=
  Reader.pair Reader.text Reader.text

/-- An entry of the range table. -/
def districtEntry : Record (Halves String (List (String × String)))
    (String × List (String × String)) where
  name := "DistrictEntry"
  fields := [firstField "district" Reader.text,
             secondField "ranges" false (Reader.list bounds)]
  closed := false
  initial := {}
  finish
    | ⟨some district, some ranges⟩ => .ok (district, ranges)
    | ⟨none, _⟩ => .error "district"
    | ⟨some _, none⟩ => .error "ranges"

/-- An entry of the pass number table. -/
def passNumberEntry : Record (Halves String String) (String × String) where
  name := "PassNumberEntry"
  fields := [firstField "district" Reader.text,
             secondField "pass_number" false Reader.text]
  closed := false
  initial := {}
  finish
    | ⟨some district, some number⟩ => .ok (district, number)
    | ⟨none, _⟩ => .error "district"
    | ⟨some _, none⟩ => .error "pass_number"

/-- An entry of the table of exceptions. Without letters it is about the whole range. -/
def exceptionEntry : Record (Halves (String × String) (List String))
    ((String × String) × List String) where
  name := "ContainerExceptionEntry"
  fields := [firstField "range" bounds,
             secondField "letters" true (Reader.list Reader.text)]
  closed := false
  initial := {}
  finish
    | ⟨some range, letters⟩ => .ok (range, letters.getD [])
    | ⟨none, _⟩ => .error "range"

/-- The tables of a document, as far as they have been read. -/
structure Parts where
  districts : Option (List (String × List (String × String))) := none
  passNumbers : Option (List (String × String)) := none
  exceptions : Option (List ((String × String) × List String)) := none

/-- The whole document. A table that is left out is empty. -/
def record : Record Parts Document where
  name := "TablesDocument"
  fields :=
    [{ name := "districts", optional := true
       isSet := fun s => s.districts.isSome
       read := fun s => do
         return { s with districts := some (← Reader.list districtEntry.read) } },
     { name := "pass_numbers", optional := true
       isSet := fun s => s.passNumbers.isSome
       read := fun s => do
         return { s with passNumbers := some (← Reader.list passNumberEntry.read) } },
     { name := "container_exceptions", optional := true
       isSet := fun s => s.exceptions.isSome
       read := fun s => do
         return { s with exceptions := some (← Reader.list exceptionEntry.read) } }]
  closed := true
  initial := {}
  finish s :=
    .ok ⟨s.districts.getD [], s.passNumbers.getD [], s.exceptions.getD []⟩

/-- Reads a document. -/
def parse (text : String) : Except Json.Error Document :=
  record.read.run text

/-- The district a document names. -/
def district (name : String) : Except TableFault District :=
  (FromText.fromText name).mapError fun e => .unknownDistrict e.text

/-- The draft that a document describes: the names of the range table are read first,
    then those of the pass number table. -/
def draft (doc : Document) : Except TableFault Draft := do
  let districts ← doc.districts.mapM fun (name, ranges) => do
    return (← district name, ranges)
  let passNumbers ← doc.passNumbers.mapM fun (name, number) => do
    return (← district name, number)
  return ⟨districts, passNumbers, doc.exceptions⟩

end Document

/-- Why the text of a document gives no tables. -/
inductive DocumentError where
  | malformed (e : Json.Error)
  | inconsistent (f : TableFault)
  deriving DecidableEq, Repr

/-- The tables that the text of a document configures. -/
def ofDocument (text : String) : Except DocumentError Tables :=
  match Document.parse text with
  | .error e => .error (.malformed e)
  | .ok doc =>
    match doc.draft >>= Draft.build with
    | .error f => .error (.inconsistent f)
    | .ok tables => .ok tables

end WastePass.Tables
