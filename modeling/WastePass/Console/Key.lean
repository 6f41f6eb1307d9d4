/-!
# Keys — what a user can press

    A key event is the key and the modifiers held down with it. A key that writes
    brings the character it writes.
-/

namespace WastePass

/-- A key. Function keys, keys that play media and modifiers that are pressed alone have
    numbers. -/
inductive KeyCode where
  | char (c : Char)
  | function (n : Nat)
  | enter
  | tab
  | backTab
  | backspace
  | delete
  | insert
  | escape
  | up
  | down
  | left
  | right
  | home
  | toEnd
  | pageUp
  | pageDown
  | null
  | capsLock
  | scrollLock
  | numLock
  | printScreen
  | pause
  | menu
  | keypadBegin
  | media (n : Nat)
  | modifier (n : Nat)
  deriving DecidableEq, Repr

/-- The modifiers held down with a key. -/
structure Modifiers where
  control : Bool := false
  alt : Bool := false
  shift : Bool := false
  super : Bool := false
  hyper : Bool := false
  metaKey : Bool := false
  deriving DecidableEq, Repr

/-- A key and the modifiers held down with it. -/
structure Key where
  code : KeyCode
  modifiers : Modifiers := {}
  deriving DecidableEq, Repr

namespace Key

/-- The key event of writing a character. -/
def ofChar (c : Char) : Key := { code := .char c }

/-- The key events that a terminal reports with these characters. A key that writes
    nothing is reported as an escape sequence. -/
def ofReport : List Char → List Key
  | [] => []
  | '\x1b' :: 'O' :: 'Q' :: cs => { code := .function 2 } :: ofReport cs
  | '\x1b' :: '[' :: 'A' :: cs => { code := .up } :: ofReport cs
  | '\x1b' :: '[' :: 'B' :: cs => { code := .down } :: ofReport cs
  | '\x1b' :: '[' :: 'C' :: cs => { code := .right } :: ofReport cs
  | '\x1b' :: '[' :: 'D' :: cs => { code := .left } :: ofReport cs
  | '\x1b' :: cs => { code := .escape } :: ofReport cs
  | '\t' :: cs => { code := .tab } :: ofReport cs
  | '\n' :: cs | '\r' :: cs => { code := .enter } :: ofReport cs
  | '\x7f' :: cs => { code := .backspace } :: ofReport cs
  | '\x03' :: cs => { code := .char 'c', modifiers := { control := true } } :: ofReport cs
  | c :: cs => ofChar c :: ofReport cs

end Key

end WastePass
