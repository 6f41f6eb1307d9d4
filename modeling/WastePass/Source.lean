import WastePass.Disk
import WastePass.Tables.Amsterdam
import WastePass.Tables.Document
import WastePass.Text.MediaType

/-!
# Sources — where tables are taken from

    The tables of the municipality are always at hand. A file and an address hold a
    table document; they differ in how they can fail and in how their bytes become a
    text, and share everything that comes after the text.
-/

namespace WastePass

open WastePass.Text (Bytes Charset MediaType.charset?)

/-- What an address answers: a number for the kind of the answer, the media type of the body,
    and the body. -/
structure WebAnswer where
  status : Nat
  contentType : String
  body : Bytes
  deriving DecidableEq

namespace WebAnswer

/-- An answer that says the request failed. -/
def isFailure (a : WebAnswer) : Bool :=
  400 ≤ a.status && a.status ≤ 599

/-- An answer after which no other comes. -/
def isFinal (a : WebAnswer) : Bool :=
  a.status = 101 || (200 ≤ a.status && a.status ≤ 999)

/-- An answer that has a body. -/
def hasBody (a : WebAnswer) : Bool :=
  a.status ≠ 101 && a.status ≠ 204 && a.status ≠ 304

/-- The body as a text. -/
def text (a : WebAnswer) : String :=
  if a.hasBody then Charset.decode (MediaType.charset? a.contentType) a.body else ""

end WebAnswer

/-- What answers at each address, if anything does. -/
abbrev Web := String → Option WebAnswer

/-- Where tables are taken from. -/
inductive Source where
  | embedded
  | file (path : String)
  | remote (address : String)
  deriving DecidableEq, Repr

/-- Why a source gives no tables. An address counts as unreachable if it answers that it
    failed. -/
inductive SourceError where
  | unreadable (f : DiskFault)
  | unreachable
  | document (e : Tables.DocumentError)
  deriving DecidableEq, Repr

namespace SourceError

/-- What is reported about the cause of an error, if it has one that is known. -/
def cause? : SourceError → Option String
  | .unreadable f => some f.message
  | .unreachable => none
  | .document (.malformed e) => some e.message
  | .document (.inconsistent f) => some f.message

/-- What kind of an error it is. -/
def kind : SourceError → String
  | .unreadable _ => "I/O error"
  | .unreachable => "Network error"
  | .document (.malformed _) => "Parse error"
  | .document (.inconsistent _) => "Invalid tables"

/-- What is reported about an error. -/
def message (e : SourceError) : String :=
  match e.cause? with
  | none => e.kind
  | some cause => e.kind ++ ": " ++ cause

end SourceError

namespace Source

/-- What a source is called in messages. -/
def name : Source → String
  | .embedded => "embedded Amsterdam tables"
  | .file path => "file " ++ path
  | .remote address => address

/-- The tables of the text of a document. -/
def ofText (text : String) : Except SourceError Tables :=
  (Tables.ofDocument text).mapError .document

/-- The tables of an answer. -/
def ofAnswer : Option WebAnswer → Except SourceError Tables
  | none => .error .unreachable
  | some a => if a.isFinal && !a.isFailure then ofText a.text else .error .unreachable

/-- Takes the tables from a source. -/
def load (disk : Disk) (web : Web) : Source → Except SourceError Tables
  | .embedded => Amsterdam.tables.mapError (.document ∘ .inconsistent)
  | .file path => (disk.readText path).mapError .unreadable >>= ofText
  | .remote address => ofAnswer (web address)

end Source

end WastePass
