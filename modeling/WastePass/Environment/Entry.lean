import WastePass.Environment
import WastePass.Text.Blank
import WastePass.Text.Property.Alphanumeric

/-!
# Entries of an environment file — a name, an equals sign, a value

    A value may be quoted in part, may have characters escaped, and may name other
    settings behind a dollar sign, which stand for their values. In single quotes all
    characters stand for themselves.
-/

namespace WastePass.Environment

/-- How the next character of a value is taken: outside quotes, in single or double quotes,
    behind a backslash, in a name behind a dollar sign, in a name between braces, or behind
    the value. Backslashes and names may stand in double quotes (`quoted`); `read` are the
    characters of a name so far. -/
inductive Mode where
  | plain
  | single
  | double
  | escape (quoted : Bool)
  | name (quoted : Bool) (read : List Char)
  | braced (quoted : Bool) (read : List Char)
  | behind
  deriving DecidableEq, Repr

namespace Mode

/-- In double quotes or outside. -/
def unquoted (quoted : Bool) : Mode := if quoted then .double else .plain

end Mode

/-- The characters of the value of a name, or none. -/
def valueOf (env : Environment) (name : List Char) : List Char :=
  ((env.get? (String.ofList name)).getD "").toList

/-- The character that stands behind a backslash for another or for itself. -/
def escaped? : Char → Option Char
  | '\\' => some '\\'
  | '\'' => some '\''
  | '"'  => some '"'
  | '$'  => some '$'
  | ' '  => some ' '
  | 'n'  => some '\n'
  | _    => none

/-- A character that a name behind a dollar sign goes on with. -/
def isNameChar (c : Char) : Bool := Text.Property.alphanumeric.mem c

/-- What a character of a value adds to it, and how the next one is taken. The value ends
    in `none` where the character is not allowed. -/
def take (env : Environment) : Mode → Char → Option (List Char × Mode)
  | .plain, c =>
      match c with
      | '$'  => some ([], .name false [])
      | '\'' => some ([], .single)
      | '"'  => some ([], .double)
      | '\\' => some ([], .escape false)
      | ' ' | '\t' => some ([], .behind)
      | _    => some ([c], .plain)
  | .single, c => some (if c = '\'' then ([], .plain) else ([c], .single))
  | .double, c =>
      match c with
      | '$'  => some ([], .name true [])
      | '"'  => some ([], .plain)
      | '\\' => some ([], .escape true)
      | _    => some ([c], .double)
  | .escape quoted, c => (escaped? c).map fun e => ([e], .unquoted quoted)
  | .name quoted read, c =>
      if isNameChar c then some ([], .name quoted (read ++ [c]))
      else if c = '\x7b' && read.isEmpty then some ([], .braced quoted [])
      else if c = '$' then some (valueOf env read, .name quoted [])
      else some (valueOf env read ++ [c], .unquoted quoted)
  | .braced quoted read, c =>
      if c = '\x7d' then some (valueOf env read, .unquoted quoted)
      else some ([], .braced quoted (read ++ [c]))
  | .behind, c => if c = ' ' || c = '\t' then some ([], .behind) else none

/-- What the end of a value adds to it. A quote or a brace must not be open. -/
def finish (env : Environment) : Mode → Option (List Char)
  | .plain | .escape false | .behind => some []
  | .name false read => some (valueOf env read)
  | _ => none

/-- Reads a value. A comment may stand behind it. -/
def readValue (env : Environment) : Mode → List Char → Option (List Char)
  | mode, [] => finish env mode
  | mode, c :: cs =>
    if mode = .behind && c = '#' then some []
    else do
      let (added, next) ← take env mode c
      return added ++ (← readValue env next cs)

/-- A character that a name begins with. -/
def isNameStart (c : Char) : Bool := c.isAlpha || c = '_'

/-- A character that a name goes on with. -/
def isNamePart (c : Char) : Bool := c.isAlphanum || c = '_' || c = '.'

/-- Reads a name, and what stands behind the blanks that follow it. -/
def readName (cs : List Char) : Option (String × List Char) :=
  if (cs.head?.map isNameStart).getD false then
    let (name, rest) := cs.span isNamePart
    some (String.ofList name, Text.trimStart rest)
  else none

/-- Takes an equals sign. -/
def readEquals : List Char → Option (List Char)
  | '=' :: cs => some cs
  | _ => none

/-- Reads the name of an entry and its equals sign. The word `export` in front of it is
    ignored. -/
def readHead (cs : List Char) : Option (String × List Char) := do
  let (name, rest) ← readName cs
  match readEquals rest with
  | some rest => return (name, rest)
  | none =>
    if name = "export" then
      let (name, rest) ← readName rest
      return (name, ← readEquals rest)
    else none

/-- What a line of an environment file is: blank but for a comment, a value for a name, or no
    entry. -/
inductive Entry where
  | blank
  | setting (name value : String)
  | malformed
  deriving DecidableEq, Repr

/-- Reads an entry. Settings that it refers to are looked up in `env`. -/
def readEntry (env : Environment) (line : List Char) : Entry :=
  let isVoid (cs : List Char) : Bool := cs.isEmpty || cs.head? = some '#'
  let cs := Text.trim line
  if isVoid cs then .blank
  else
    match readHead cs with
    | none => .malformed
    | some (name, rest) =>
      let rest := Text.trimStart rest
      if isVoid rest then .setting name ""
      else
        match readValue env .plain rest with
        | none => .malformed
        | some value => .setting name (String.ofList value)

end WastePass.Environment
