import WastePass.Json.Skip

/-!
# Shapes — what a document is expected to hold

    A text, a list, a pair, a choice among names, or a record. A record is written as
    an object, its fields in any order, or as a list of its fields in their order. A
    value of another shape is refused with a word about what was found; the shape is
    checked while reading, so what stands behind the first fault does not matter.
-/

namespace WastePass.Json

namespace Reader

/-- Reads as much of the value at hand as it takes to name it. -/
def found : Reader Found := do
  match ← peek with
  | some 'n' => do advance; word ['u', 'l', 'l']; return .null
  | some 't' => do advance; word ['r', 'u', 'e']; return .boolean true
  | some 'f' => do advance; word ['a', 'l', 's', 'e']; return .boolean false
  | some '-' => do advance; return .number (← readNumber true)
  | some '"' => do advance; return .text (← readText)
  | some '[' => return .list
  | some '\x7b' => return .object
  | some c => if c.isDigit then return .number (← readNumber false) else failNext .expectedValue
  | none => failNext .endInValue

/-- Refuses the value at hand. -/
def mismatch {α : Type} (expected : String) : Reader α := do
  failHere (.wrongType (← found) expected)

/-- Reads a text. -/
def text : Reader String := do
  match ← next with
  | some '"' => do advance; readText
  | _ => mismatch "a string"

/-- Reads the elements of a list and its closing bracket. -/
def elements {α : Type} (item : Reader α) : Nat → Bool → Reader (List α)
  | 0, _ => failHere .endInList
  | n + 1, first => do
    if ← nextElement first then
      let x ← item
      let xs ← elements item n false
      return x :: xs
    else
      advance
      return []

/-- Reads a list of any length. -/
def list {α : Type} (item : Reader α) : Reader (List α) := do
  match ← next with
  | some '[' => do
    advance
    elements item ((← get).rest.length + 1) true
  | _ => mismatch "a sequence"

/-- Reads a list of exactly two elements. -/
def pair {α β : Type} (first : Reader α) (second : Reader β) : Reader (α × β) := do
  match ← next with
  | some '[' => do
    advance
    if !(← nextElement true) then failNext (.wrongLength 0 "a tuple of size 2")
    let a ← first
    if !(← nextElement false) then failNext (.wrongLength 1 "a tuple of size 2")
    let b ← second
    closeList
    return (a, b)
  | _ => mismatch "a tuple of size 2"

/-- Reads one of several names. -/
def name {α : Type} (options : List (String × α)) : Reader α := do
  match ← next with
  | some '"' => do
    advance
    let s ← readText
    match options.lookup s with
    | some a => return a
    | none => failHere (.unknownChoice s (options.map (·.1)))
  | _ => mismatch "variant identifier"

/-- Reads `null`. -/
def null : Reader Unit := do
  match ← next with
  | some 'n' => do advance; word ['u', 'l', 'l']
  | _ => mismatch "unit"

/-- Reads one of several names, as a text or as the key of an object that holds `null`. -/
def choice {α : Type} (options : List (String × α)) : Reader α := do
  match ← next with
  | none => failNext .endInValue
  | some '"' => name options
  | some '\x7b' => do
    advance
    let a ← name options
    colon
    null
    match ← next with
    | some '\x7d' => do advance; return a
    | some _ => failHere .expectedValue
    | none => failHere .endInObject
  | some _ => failNext .expectedValue

end Reader

/-- A field of a record that is being read into a `σ`. `isSet` says that it has been read. -/
structure Member (σ : Type) where
  name : String
  optional : Bool
  isSet : σ → Bool
  read : σ → Reader σ

/-- A record that is read field by field into a `σ` and then becomes an `α`, unless a field is
    missing, whose name is given instead. Other fields are refused if it is closed and skipped
    if not. -/
structure Record (σ α : Type) where
  name : String
  fields : List (Member σ)
  closed : Bool
  initial : σ
  finish : σ → Except String α

namespace Record

open Reader

variable {σ α : Type}

/-- Reads the members of an object up to its closing brace. -/
def members (r : Record σ α) : Nat → Bool → σ → Reader σ
  | 0, _, _ => failHere .endInObject
  | n + 1, first, s => do
    match ← nextKey first with
    | none => return s
    | some key =>
      match r.fields.find? fun f => f.name == key with
      | some f =>
        if f.isSet s then failAfterKey (.duplicateField key)
        else do
          colon
          members r n false (← f.read s)
      | none =>
        if r.closed then failAfterKey (.unknownField key (r.fields.map (·.name)))
        else do
          colon
          skipValue
          members r n false s

/-- Reads the fields that are left from the elements of a list. -/
def ordered (r : Record σ α) : List (Member σ) → Nat → σ → Reader σ
  | [], _, s => return s
  | f :: fs, i, s => do
    if ← nextElement (i == 0) then
      ordered r fs (i + 1) (← f.read s)
    else if f.optional then
      ordered r fs (i + 1) s
    else
      failNext (.wrongLength i
        ("struct " ++ r.name ++ " with " ++ toString r.fields.length ++ " elements"))

/-- Reads a record, written as an object or as a list. -/
def read (r : Record σ α) : Reader α := do
  match ← next with
  | some '[' => do
    advance
    let s ← r.ordered r.fields 0 r.initial
    match r.finish s with
    | .ok a => do closeList; return a
    | .error name => failNext (.missingField name)
  | some '\x7b' => do
    advance
    let s ← r.members ((← get).rest.length + 1) true r.initial
    match r.finish s with
    | .ok a => do advance; return a
    | .error name => failNext (.missingField name)
  | _ => mismatch ("struct " ++ r.name)

end Record

end WastePass.Json
