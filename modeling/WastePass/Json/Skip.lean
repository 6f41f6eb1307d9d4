import WastePass.Json.Text
import WastePass.Json.Number

/-!
# Skipping — values that are checked and then left alone

    A field that nobody asked for may hold any value. It has to be written correctly,
    however deeply it is nested. The lists and objects that are open are kept on a
    stack, and each step takes at least one character, so the length of what is left
    bounds the number of steps.
-/

namespace WastePass.Json

/-- What a value being skipped stands in. -/
inductive Enclosure where
  | list
  | object
  deriving DecidableEq, Repr

namespace Reader

/-- Skips a value that holds no others. -/
def skipScalar (c : Char) : Reader Unit :=
  match c with
  | 'n' => do advance; word ['u', 'l', 'l']
  | 't' => do advance; word ['r', 'u', 'e']
  | 'f' => do advance; word ['a', 'l', 's', 'e']
  | '-' => do advance; skipNumber
  | '"' => do advance; skipText
  | _ => if c.isDigit then skipNumber else failNext .expectedValue

/-- Skips a key and its colon. -/
def skipKey : Reader Unit := do
  match ← next with
  | some '"' => do advance; skipText; colon
  | some _ => failNext .keyNotText
  | none => failNext .endInObject

mutual

/-- Skips a value, and then what is left of everything that is open around it. -/
def skipWithin : Nat → List Enclosure → Reader Unit
  | 0, _ => failHere .endInValue
  | n + 1, stack => do
    match ← next with
    | none => failNext .endInValue
    | some '[' => do
      advance
      match ← next with
      | none => failNext .endInList
      | some ']' => do advance; skipAfter n stack
      | some _ => skipWithin n (.list :: stack)
    | some '\x7b' => do
      advance
      match ← next with
      | some '\x7d' => do advance; skipAfter n stack
      | _ => do skipKey; skipWithin n (.object :: stack)
    | some c => do skipScalar c; skipAfter n stack

/-- Skips what follows a value up to the end of everything that is open. -/
def skipAfter : Nat → List Enclosure → Reader Unit
  | _, [] => return
  | 0, _ :: _ => failHere .endInValue
  | n + 1, .list :: stack => do
    match ← next with
    | none => failNext .endInList
    | some ',' => do advance; skipWithin n (.list :: stack)
    | some ']' => do advance; skipAfter n stack
    | some _ => failNext .expectedListSeparator
  | n + 1, .object :: stack => do
    match ← next with
    | none => failNext .endInObject
    | some ',' => do advance; skipKey; skipWithin n (.object :: stack)
    | some '\x7d' => do advance; skipAfter n stack
    | some _ => failNext .expectedObjectSeparator

end

/-- Skips one value of any kind. -/
def skipValue : Reader Unit := do
  skipWithin ((← get).rest.length + 1) []

end Reader

end WastePass.Json
