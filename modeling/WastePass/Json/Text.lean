import WastePass.Json.Reader
import WastePass.Text.Utf16

/-!
# Texts — what stands between double quotes in a document

    Characters stand for themselves, except quotes, backslashes and controls; a
    backslash begins an escape. An escape gives sixteen bits in hexadecimal, and two
    of them, the surrogates, make one character beyond them. `readText` gives the
    characters meant; `skipText` only finds the end and leaves surrogates unpaired.
-/

namespace WastePass.Json

open WastePass.Text.Utf16 (isLeading isTrailing joined)

/-- The value of a hexadecimal digit, in either case. -/
def hexValue? (c : Char) : Option Nat :=
  let n := c.toNat
  if 48 ≤ n ∧ n ≤ 57 then some (n - 48)
  else if 97 ≤ n ∧ n ≤ 102 then some (n - 87)
  else if 65 ≤ n ∧ n ≤ 70 then some (n - 55)
  else none

/-- The value of four hexadecimal digits. -/
def hexValue4? (a b c d : Char) : Option Nat := do
  return 4096 * (← hexValue? a) + 256 * (← hexValue? b) +
    16 * (← hexValue? c) + (← hexValue? d)

/-- The character that one letter behind a backslash stands for. -/
def escaped? : Char → Option Char
  | '"'  => some '"'
  | '\\' => some '\\'
  | '/'  => some '/'
  | 'b'  => some '\x08'
  | 'f'  => some '\x0c'
  | 'n'  => some '\n'
  | 'r'  => some '\r'
  | 't'  => some '\t'
  | _    => none

/-- What is wrong where four hexadecimal digits should stand: the text ends before four
    bytes, or one of them is no digit. -/
def hexError (cs : List Char) (p : Position) : Error :=
  if (String.ofList cs).utf8ByteSize < 4 then ⟨.endInText, p.afterAll cs⟩
  else ⟨.invalidEscape, p.bytesInto 4 cs⟩

/-- The place after characters of one byte each. -/
def Position.plus (p : Position) (n : Nat) : Position :=
  ⟨p.line, p.column + n⟩

/-- Reads up to the closing quote. `read` holds the characters read so far, the latest
    first. -/
def textFrom (read : List Char) : List Char → Position → Except Error (String × Cursor)
  | [], p => .error ⟨.endInText, p⟩
  | '"' :: cs, p => .ok (String.ofList read.reverse, ⟨cs, p.plus 1⟩)
  | '\\' :: [], p => .error ⟨.endInText, p.plus 1⟩
  | '\\' :: 'u' :: a :: b :: c :: d :: cs, p =>
    match hexValue4? a b c d with
    | none => .error (hexError (a :: b :: c :: d :: cs) (p.plus 2))
    | some n =>
      if isTrailing n then .error ⟨.loneSurrogate, p.plus 6⟩
      else if isLeading n then
        match cs with
        | '\\' :: 'u' :: e :: f :: g :: h :: ds =>
          match hexValue4? e f g h with
          | none => .error (hexError (e :: f :: g :: h :: ds) (p.plus 8))
          | some m =>
            if isTrailing m then textFrom (joined n m :: read) ds (p.plus 12)
            else .error ⟨.loneSurrogate, p.plus 12⟩
        | '\\' :: 'u' :: ds => .error (hexError ds (p.plus 8))
        | '\\' :: [] => .error ⟨.endInText, p.plus 7⟩
        | '\\' :: ds => .error ⟨.unfinishedPair, (p.plus 7).into ds⟩
        | [] => .error ⟨.endInText, p.plus 6⟩
        | ds => .error ⟨.unfinishedPair, (p.plus 6).into ds⟩
      else textFrom (Char.ofNat n :: read) cs (p.plus 6)
  | '\\' :: 'u' :: cs, p => .error (hexError cs (p.plus 2))
  | '\\' :: c :: cs, p =>
    match escaped? c with
    | some e => textFrom (e :: read) cs (p.plus 2)
    | none => .error ⟨.invalidEscape, (p.plus 1).into (c :: cs)⟩
  | c :: cs, p =>
    if c.toNat < 32 then .error ⟨.controlInText, p.into (c :: cs)⟩
    else textFrom (c :: read) cs (p.after c)

/-- Finds the closing quote. A control character is reported where it stands. -/
def pastText : List Char → Position → Except Error Cursor
  | [], p => .error ⟨.endInText, p⟩
  | '"' :: cs, p => .ok ⟨cs, p.plus 1⟩
  | '\\' :: [], p => .error ⟨.endInText, p.plus 1⟩
  | '\\' :: 'u' :: a :: b :: c :: d :: cs, p =>
    match hexValue4? a b c d with
    | none => .error (hexError (a :: b :: c :: d :: cs) (p.plus 2))
    | some _ => pastText cs (p.plus 6)
  | '\\' :: 'u' :: cs, p => .error (hexError cs (p.plus 2))
  | '\\' :: c :: cs, p =>
    match escaped? c with
    | some _ => pastText cs (p.plus 2)
    | none => .error ⟨.invalidEscape, (p.plus 1).into (c :: cs)⟩
  | c :: cs, p =>
    if c.toNat < 32 then .error ⟨.controlInText, p⟩
    else pastText cs (p.after c)

namespace Reader

/-- Reads a text whose opening quote has been taken. -/
def readText : Reader String := fun c =>
  textFrom [] c.rest c.position

/-- Skips a text whose opening quote has been taken. -/
def skipText : Reader Unit := fun c =>
  (pastText c.rest c.position).map fun c => ((), c)

/-- Whether an object goes on, and with which key. The brace that ends it is left. -/
def nextKey (first : Bool) : Reader (Option String) := do
  match ← next with
  | none => failNext .endInObject
  | some '\x7d' => return none
  | some c =>
    if first then
      if c = '"' then do advance; return some (← readText)
      else failNext .keyNotText
    else if c = ',' then do
      advance
      match ← next with
      | none => failNext .endInValue
      | some '"' => do advance; return some (← readText)
      | some '\x7d' => failNext .trailingComma
      | some _ => failNext .keyNotText
    else failNext .expectedObjectSeparator

end Reader

end WastePass.Json
