import WastePass.Json.Shape
import WastePass.Lookup
import WastePass.Text.Quoted

/-!
# Rendering — a pass as a document

    The document is one object on one line with its three members in a fixed order.
    In a text only quotes, backslashes and the controls below the space are escaped.
    The district and the pass number have readers of their own.
-/

namespace WastePass.Json

/-- One character of a text in a document. -/
def renderChar (c : Char) : List Char :=
  match c with
  | '"'    => ['\\', '"']
  | '\\'   => ['\\', '\\']
  | '\x08' => ['\\', 'b']
  | '\x0c' => ['\\', 'f']
  | '\n'   => ['\\', 'n']
  | '\r'   => ['\\', 'r']
  | '\t'   => ['\\', 't']
  | _ =>
    if c.toNat < 32 then
      ['\\', 'u', '0', '0', Text.hexDigit (c.toNat / 16), Text.hexDigit (c.toNat % 16)]
    else [c]

/-- A text as a document holds it. -/
def renderText (s : String) : String :=
  String.ofList ('"' :: s.toList.flatMap renderChar ++ ['"'])

/-- A truth value as a document holds it. -/
def renderBool (b : Bool) : String :=
  if b then "true" else "false"

/-- A pass as a document. -/
def renderPass (p : Pass) : String :=
  "\x7b\"district\":" ++ renderText p.district.documentName ++
    ",\"pass_number\":" ++ renderText p.passNumber ++
    ",\"has_container\":" ++ renderBool p.hasContainer ++ "\x7d"

/-- Reads a district: the name that documents use, as one of a choice. -/
def readDistrict : Reader District :=
  Reader.choice (District.all.map fun d => (d.documentName, d))

/-- Reads a pass number, which is a text. -/
def readPassNumber : Reader String :=
  Reader.text

end WastePass.Json
