import WastePass.Json.Fault

/-!
# Readers — what every part of the notation is read with

    A reader takes the cursor on, or ends with an error. The place of an error is
    either where the cursor stands or one byte into what follows: the byte that told
    the reader so. As nothing is looked at behind that byte, the first error of a
    document is the one reported.
-/

namespace WastePass.Json

/-- Reads a part of a document. -/
abbrev Reader := StateT Cursor (Except Error)

namespace Reader

/-- An error where the cursor stands. -/
def failHere {α : Type} (f : Fault) : Reader α := fun c =>
  .error ⟨f, c.position⟩

/-- An error one byte into what follows. -/
def failNext {α : Type} (f : Fault) : Reader α := fun c =>
  .error ⟨f, c.position.into c.rest⟩

/-- The next character, which is not taken. -/
def peek : Reader (Option Char) := fun c =>
  .ok (c.rest.head?, c)

/-- The next character that is no space, which is not taken. -/
def next : Reader (Option Char) := fun c =>
  let c := Cursor.pastSpaces c.rest c.position
  .ok (c.rest.head?, c)

/-- Takes the next character. -/
def advance : Reader Unit := fun c =>
  .ok ((), c.tail)

/-- Takes the letters that a word goes on with. -/
def word : List Char → Reader Unit
  | [] => return
  | w :: ws => do
    match ← peek with
    | none => failHere .endInValue
    | some c => if c = w then do advance; word ws else failNext .expectedWord

/-- Takes the colon between a key and its value. -/
def colon : Reader Unit := do
  match ← next with
  | some ':' => advance
  | some _ => failNext .expectedColon
  | none => failNext .endInObject

/-- Whether a list goes on, with the comma before the element taken. -/
def nextElement (first : Bool) : Reader Bool := do
  match ← next with
  | none => failNext .endInList
  | some ']' => return false
  | some c =>
    if first then return true
    else if c = ',' then do
      advance
      match ← next with
      | none => failNext .endInValue
      | some ']' => failNext .trailingComma
      | some _ => return true
    else failNext .expectedListSeparator

/-- Takes the bracket that ends a list of a known length. -/
def closeList : Reader Unit := do
  match ← next with
  | some ']' => advance
  | some ',' => do
    advance
    match ← next with
    | some ']' => failNext .trailingComma
    | _ => failNext .trailingText
  | some _ => failNext .trailingText
  | none => failNext .endInList

/-- An error about a key that has been read. A brace right behind it is taken first. -/
def failAfterKey {α : Type} (f : Fault) : Reader α := do
  match ← next with
  | some '\x7d' => failNext f
  | _ => failHere f

/-- Reads the whole of a text, spaces around it allowed. -/
def run {α : Type} (r : Reader α) (text : String) : Except Error α :=
  let whole : Reader α := do
    let a ← r
    match ← next with
    | none => return a
    | some _ => failNext .trailingText
  (whole (Cursor.ofText text)).map (·.1)

end Reader

end WastePass.Json
