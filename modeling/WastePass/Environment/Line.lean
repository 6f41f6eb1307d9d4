import WastePass.Text.Blank

/-!
# Lines of an environment file — where an entry ends

    An entry ends with its line unless a quote is still open there or a backslash is
    the last character; then the next line belongs to it as well. A blank followed by
    a number sign begins a comment. `Scan.step` says what each character does, and
    `entryLines` puts the lines of the file together.
-/

namespace WastePass.Environment

/-- What the characters read so far leave open: a quote, a backslash in or outside of quotes,
    or nothing. Outside of quotes a blank may open a comment. -/
inductive Scan where
  | plain
  | blank
  | escape
  | single
  | singleEscape
  | double
  | doubleEscape
  deriving DecidableEq, Repr

namespace Scan

/-- What a character does outside quotes. -/
def enter (c : Char) : Scan :=
  if c = '\\' then .escape
  else if c = '"' then .double
  else if c = '\'' then .single
  else .plain

/-- What a character does. Nothing comes after one that begins a comment. -/
def step : Scan → Char → Option Scan
  | .blank, c => if c = '#' then none else some (enter c)
  | .plain, c =>
      if Text.isBlank c && c ≠ '\n' && c ≠ '\r' then some .blank else some (enter c)
  | .escape, _ => some .plain
  | .single, c =>
      some (if c = '\\' then .singleEscape else if c = '\'' then .plain else .single)
  | .singleEscape, _ => some .single
  | .double, c =>
      some (if c = '\\' then .doubleEscape else if c = '"' then .plain else .double)
  | .doubleEscape, _ => some .double

/-- The characters before a comment, and what they leave open if there is none. -/
def run : Scan → List Char → List Char × Option Scan
  | s, [] => ([], some s)
  | s, c :: cs =>
    match s.step c with
    | none => ([], none)
    | some next =>
      let (before, last) := next.run cs
      (c :: before, last)

end Scan

/-- A line without the characters that end it. -/
def withoutLineEnd (line : List Char) : List Char :=
  match line.reverse with
  | '\n' :: '\r' :: rest => rest.reverse
  | '\n' :: rest => rest.reverse
  | _ => line

/-- Puts lines together to entries. A line is `none` where the file is no text, and so is
    the last entry where the file ends too early. `before` holds the lines of the entry
    that is open, with what they leave open. -/
def entryLines (before : List Char) (scan : Scan) :
    List (Option (List Char)) → List (Option (List Char))
  | [] => if scan = .plain then [] else [none]
  | none :: _ => [none]
  | some line :: lines =>
    let all := before ++ line
    if (Text.trimStart all).head? = some '#' then
      some [] :: entryLines [] .plain lines
    else
      match scan.run line with
      | (kept, none) => some (before ++ kept) :: entryLines [] .plain lines
      | (_, some .plain) => some (withoutLineEnd all) :: entryLines [] .plain lines
      | (_, some next) => entryLines all next lines

end WastePass.Environment
