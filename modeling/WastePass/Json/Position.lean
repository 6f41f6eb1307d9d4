/-!
# Positions — where in a text a reader stands

    Lines count from one. The column is the number of bytes read on the line, so it is
    zero at its start, and a character counts for as many as its UTF-8 form has.
-/

namespace WastePass.Json

/-- A place in a text: a line, counted from one, and the bytes read on it. -/
structure Position where
  line : Nat
  column : Nat
  deriving DecidableEq, Repr

namespace Position

/-- Where every text begins. -/
def start : Position := ⟨1, 0⟩

/-- The place after one more character. -/
def after (p : Position) (c : Char) : Position :=
  if c = '\n' then ⟨p.line + 1, 0⟩ else ⟨p.line, p.column + c.utf8Size⟩

/-- The place after more characters. -/
def afterAll (p : Position) (cs : List Char) : Position :=
  cs.foldl after p

/-- The place one byte into what follows. -/
def into (p : Position) : List Char → Position
  | [] => p
  | c :: _ => if c = '\n' then ⟨p.line + 1, 0⟩ else ⟨p.line, p.column + 1⟩

/-- The place a number of bytes into what follows, or its end. -/
def bytesInto (p : Position) : Nat → List Char → Position
  | 0, _ => p
  | _, [] => p
  | n + 1, c :: cs =>
    if c.utf8Size ≤ n + 1 then bytesInto (p.after c) (n + 1 - c.utf8Size) cs
    else ⟨p.line, p.column + (n + 1)⟩

end Position

/-- What is left to read, and where it begins. -/
structure Cursor where
  rest : List Char
  position : Position
  deriving DecidableEq, Repr

namespace Cursor

/-- The beginning of a text. -/
def ofText (text : String) : Cursor := ⟨text.toList, Position.start⟩

/-- The characters that may stand between the parts of a document. -/
def isSpace (c : Char) : Bool :=
  c = ' ' || c = '\n' || c = '\t' || c = '\r'

/-- The place of the first character that is no space. -/
def pastSpaces : List Char → Position → Cursor
  | [], p => ⟨[], p⟩
  | c :: cs, p => if isSpace c then pastSpaces cs (p.after c) else ⟨c :: cs, p⟩

/-- The place after the first character. -/
def tail (c : Cursor) : Cursor :=
  match c.rest with
  | [] => c
  | x :: xs => ⟨xs, c.position.after x⟩

end Cursor

end WastePass.Json
