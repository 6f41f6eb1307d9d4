import WastePass.Decimal.Whole
import WastePass.Event
import WastePass.Text.Blank
import WastePass.Text.Property.Alphanumeric

/-!
# Log rules — a level, and which events it is for

    A rule is a level, the beginning of the names of the parts of the program it is
    for, or both. Between brackets it can be narrowed to a span of work and to events
    with certain fields. A word alone is a level if it is the name or the number of
    one, and a part of the program otherwise.
-/

namespace WastePass

namespace Level

/-- Every level, in their order. -/
def all : List Level := [.off, .error, .warn, .info, .debug, .trace]

/-- The level that a word means, by number or by name in either case. -/
def ofWord? (word : List Char) : Option Level :=
  let named := all.find? fun l => word.map Char.toUpper = l.name.toList
  match Decimal.whole word with
  | .ok n => all[n]?
  | .error _ => named

end Level

namespace Log

/-- Why a filter is refused. -/
inductive FilterFault where
  | malformed
  | unknownLevel
  deriving DecidableEq, Repr

namespace FilterFault

/-- What is reported about a fault, and about its cause if it has one. -/
def chain : FilterFault → List String
  | .malformed => ["invalid filter directive"]
  | .unknownLevel =>
      let text := "error parsing level filter: expected one of \"off\", \"error\", " ++
        "\"warn\", \"info\", \"debug\", \"trace\", or a number 0-5"
      [text, text]

end FilterFault

/-- A field that events must have, perhaps with a value. -/
structure FieldRule where
  name : String
  withValue : Bool
  deriving DecidableEq, Repr

/-- A rule of a filter: how much is logged of a part of the program, told by what its name
    begins with, within a span of work and for events with these fields. -/
structure Rule where
  level : Level := .trace
  target : Option String := none
  span : Option String := none
  fields : List FieldRule := []
  deriving DecidableEq, Repr

/-- What part of a rule is being read, with the place where it began. -/
inductive Reading where
  | start
  | word
  | span (start : Nat)
  | field (start : Nat)
  | fields
  | target
  | level (start : Nat)
  deriving DecidableEq, Repr

namespace Rule

/-- The characters of a text that begin between two places, counted in bytes. -/
def between (start stop : Nat) (text : List Char) : List Char :=
  let rec go (place : Nat) : List Char → List Char
    | [] => []
    | c :: cs =>
      if place < start then go (place + c.utf8Size) cs
      else if place < stop then c :: go (place + c.utf8Size) cs
      else []
  go 0 text

/-- The characters of a text from a place on. -/
def since (start : Nat) (text : List Char) : List Char :=
  between start (start + (String.ofList text).utf8ByteSize) text

/-- Reads a field: its name, and an equals sign if a value follows. -/
def readField (cs : List Char) : Except FilterFault FieldRule :=
  if cs.isEmpty then .error .malformed
  else .ok ⟨String.ofList (cs.takeWhile (· ≠ '=')), cs.contains '='⟩

/-- A character that a rule may begin with. -/
def isStart (c : Char) : Bool :=
  c = '-' || c = ':' || c = '_' || Text.Property.alphanumeric.mem c

/-- Reads one character, which stands at a place. The parts of the rule are cut out of
    `text`. -/
def step (text : List Char) (rule : Rule) (reading : Reading) (place : Nat) (c : Char) :
    Except FilterFault (Rule × Reading) :=
  match reading with
  | .start =>
      if c = '[' then .ok (rule, .span (place + 1))
      else if isStart c then .ok (rule, .word)
      else .error .malformed
  | .word =>
      let word := String.ofList (between 0 place text)
      if c = '=' then .ok ({ rule with target := some word }, .level (place + 1))
      else if c = '[' then .ok ({ rule with target := some word }, .span (place + 1))
      else .ok (rule, .word)
  | .span start =>
      let word := between start place text
      if c = ']' then .ok ({ rule with span := some (String.ofList word) }, .target)
      else if c = '\x7b' then
        let span := if word.isEmpty then none else some (String.ofList word)
        .ok ({ rule with span := span }, .field (place + 1))
      else .ok (rule, .span start)
  | .field start =>
      if c = '\x7d' then do
        let field ← readField (between start place text)
        .ok ({ rule with fields := rule.fields ++ [field] }, .fields)
      else .ok (rule, .field start)
  | .fields => if c = ']' then .ok (rule, .target) else .error .malformed
  | .target => if c = '=' then .ok (rule, .level (place + 1)) else .error .malformed
  | .level start => .ok (rule, .level start)

/-- Reads what is left at the end of a rule. -/
def finish (text : List Char) (rule : Rule) : Reading → Except FilterFault Rule
  | .word =>
      match Level.ofWord? text with
      | some level => .ok { rule with level := level, target := none }
      | none => .ok { rule with level := .trace, target := some (String.ofList text) }
  | .level start =>
      let word := since start text
      if word.isEmpty then .ok { rule with level := .trace }
      else
        match Level.ofWord? word with
        | some level => .ok { rule with level := level }
        | none => .error .unknownLevel
  | .target => .ok rule
  | _ => .error .malformed

/-- Reads the characters from a place on. -/
def readFrom (text : List Char) (rule : Rule) (reading : Reading) (place : Nat) :
    List Char → Except FilterFault Rule
  | [] => finish text rule reading
  | c :: cs => do
    let (rule, reading) ← step text rule reading place c
    readFrom text rule reading (place + c.utf8Size) cs

/-- Reads a rule. Blanks around it are passed over, but the places of its parts are
    counted without the blanks in front and looked up with them. -/
def read (text : List Char) : Except FilterFault Rule :=
  readFrom text {} .start 0 (Text.trim text)

end Rule

end Log

end WastePass
