import WastePass.Text.Property.Unprintable
import WastePass.Text.Property.Extending

/-!
# Quoted text — how a message shows a text it was given

    Between double quotes every character stands as itself unless the reader could
    not see it or could mistake it: quotes and backslashes get a backslash, the usual
    controls their letter, and any other unprintable or extending character its code
    point in hexadecimal.
-/

namespace WastePass.Text

/-- The digit for a value below sixteen. -/
def hexDigit (n : Nat) : Char :=
  if n < 10 then Char.ofNat (48 + n) else Char.ofNat (87 + n)

/-- A number in hexadecimal, in lower case and without leading zeros. -/
def hex (n : Nat) : List Char :=
  (Nat.toDigits 16 n)

/-- One character of a quoted text. -/
def quotedChar (c : Char) : List Char :=
  match c with
  | '"' => ['\\', '"']
  | '\\' => ['\\', '\\']
  | '\n' => ['\\', 'n']
  | '\r' => ['\\', 'r']
  | '\t' => ['\\', 't']
  | '\x00' => ['\\', '0']
  | _ =>
    if Property.extending.mem c || Property.unprintable.mem c then
      ['\\', 'u', '{'] ++ hex c.toNat ++ ['}']
    else [c]

/-- A text between double quotes, with what cannot be seen spelled out. -/
def quoted (text : String) : String :=
  String.ofList ('"' :: text.toList.flatMap quotedChar ++ ['"'])

end WastePass.Text
