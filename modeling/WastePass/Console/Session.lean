import WastePass.Console.Key
import WastePass.Lookup
import WastePass.Overview
import WastePass.Text.Blank

/-!
# Sessions — what the user has typed, looked up and selected

    A session shows one of two screens. On the lookup screen keys edit one of two
    fields and Enter looks their texts up; on the district screen keys move a selection
    over the overview, which is taken once and stays as it is. A key changes at most
    one of screen, focus, text and selection (`press`), and a lookup changes only the
    history (`recordLookup`).
-/

namespace WastePass

/-- A time of the day. -/
structure ClockTime where
  hour : Nat
  minute : Nat
  second : Nat
  deriving DecidableEq, Repr

namespace ClockTime

/-- A number with at least two digits. -/
def twoDigits (n : Nat) : String :=
  if n < 10 then "0" ++ toString n else toString n

/-- The time as it is shown. -/
def text (t : ClockTime) : String :=
  twoDigits t.hour ++ ":" ++ twoDigits t.minute ++ ":" ++ twoDigits t.second

end ClockTime

/-- The screens of a session. -/
inductive Screen where
  | lookup
  | districts
  deriving DecidableEq, Repr

namespace Screen

/-- The screen that is not this one. -/
def other : Screen → Screen
  | .lookup    => .districts
  | .districts => .lookup

end Screen

/-- The fields of the lookup screen. -/
inductive InputField where
  | postalCode
  | houseNumber
  deriving DecidableEq, Repr

namespace InputField

/-- The field that is not this one. -/
def other : InputField → InputField
  | .postalCode  => .houseNumber
  | .houseNumber => .postalCode

end InputField

/-- A lookup that has been made: when it was, the texts of the request, and the answer. -/
structure LookupRecord where
  time : ClockTime
  postalCode : String
  houseNumber : Option String
  outcome : Outcome
  deriving DecidableEq

/-- What a key asks for beside the changes it makes. -/
inductive Action where
  | none
  | quit
  | lookUp
  deriving DecidableEq, Repr

/-- The state of a session. Of the district screen it holds the rows and which of them is
    selected; the history has the newest lookup first. -/
structure Session where
  tables : Tables
  screen : Screen
  focus : InputField
  postalCode : String
  houseNumber : String
  history : List LookupRecord
  historyLimit : Nat
  overview : List OverviewRow
  selected : Nat
  deriving DecidableEq

namespace Session

/-- The session that begins with tables. -/
def start (tables : Tables) (historyLimit : Nat) : Session where
  tables := tables
  screen := .lookup
  focus := .postalCode
  postalCode := ""
  houseNumber := ""
  history := []
  historyLimit := historyLimit
  overview := tables.overview
  selected := 0

/-- The newest lookup. -/
def lastLookup (s : Session) : Option LookupRecord :=
  s.history.head?

/-- The text of the field that is edited. -/
def input (s : Session) : String :=
  match s.focus with
  | .postalCode  => s.postalCode
  | .houseNumber => s.houseNumber

/-- The session with another text in the field that is edited. -/
def withInput (s : Session) (text : String) : Session :=
  match s.focus with
  | .postalCode  => { s with postalCode := text }
  | .houseNumber => { s with houseNumber := text }

/-- A text without its last character. -/
def withoutLast (text : String) : String :=
  String.ofList text.toList.dropLast

/-- What a key does on the lookup screen. -/
def pressOnLookup (s : Session) (key : Key) : Session × Action :=
  match key.code with
  | .char c =>
      if key.modifiers.control || key.modifiers.alt then (s, .none)
      else (s.withInput (s.input.push c), .none)
  | .backspace => (s.withInput (withoutLast s.input), .none)
  | .tab | .backTab | .up | .down => ({ s with focus := s.focus.other }, .none)
  | .enter => (s, .lookUp)
  | .escape => (s.withInput "", .none)
  | _ => (s, .none)

/-- The selection moved to the row above, if there is one. -/
def moveUp (s : Session) : Session :=
  if 0 < s.selected then { s with selected := s.selected - 1 } else s

/-- The selection moved to the row below, if there is one. -/
def moveDown (s : Session) : Session :=
  if s.selected + 1 < s.overview.length then { s with selected := s.selected + 1 } else s

/-- What a key does on the district screen. -/
def pressOnDistricts (s : Session) (key : Key) : Session × Action :=
  match key.code with
  | .up | .char 'k' => (s.moveUp, .none)
  | .down | .char 'j' => (s.moveDown, .none)
  | .left | .escape | .char 'b' | .char 'd' => ({ s with screen := .lookup }, .none)
  | .char 'q' => (s, .quit)
  | _ => (s, .none)

/-- What a key does. -/
def press (s : Session) (key : Key) : Session × Action :=
  if key.code = .char 'c' && key.modifiers.control then (s, .quit)
  else if key.code = .function 2 then ({ s with screen := s.screen.other }, .none)
  else
    match s.screen with
    | .lookup    => s.pressOnLookup key
    | .districts => s.pressOnDistricts key

/-- The house number that the fields give, if it is not blank. -/
def givenHouseNumber (s : Session) : Option String :=
  let number := Text.trimmed s.houseNumber
  if number = "" then none else some number

/-- The record of looking the texts of the fields up. -/
def lookupRecord (s : Session) (time : ClockTime) : LookupRecord where
  time := time
  postalCode := Text.trimmed s.postalCode
  houseNumber := s.givenHouseNumber
  outcome := s.tables.lookUp (Text.trimmed s.postalCode) s.givenHouseNumber

/-- Looks the texts of the fields up, and forgets the oldest lookups beyond the limit. -/
def recordLookup (s : Session) (time : ClockTime) : Session :=
  { s with history := (s.lookupRecord time :: s.history).take s.historyLimit }

/-- Handles a key: its changes, and the lookup if it asks for one. -/
def handle (s : Session) (time : ClockTime) (key : Key) : Session × Action :=
  match s.press key with
  | (s, .lookUp) => (s.recordLookup time, .lookUp)
  | (s, action) => (s, action)

/-- Handles keys up to the first that quits, and gives the last action. -/
def handleAll (s : Session) (time : ClockTime) : List Key → Session × Action
  | [] => (s, .none)
  | [key] => s.handle time key
  | key :: keys =>
    match s.handle time key with
    | (s, .quit) => (s, .quit)
    | (s, _) => s.handleAll time keys

/-- Puts other tables in use. What is shown stays as it is. -/
def withTables (s : Session) (tables : Tables) : Session :=
  { s with tables := tables }

/-- What can happen to a session: a key is pressed at a time of the day, or other tables are
    put in use. -/
inductive Turn where
  | key (time : ClockTime) (key : Key)
  | tables (tables : Tables)

/-- The session after something has happened. -/
def after (s : Session) : Turn → Session
  | .key time key => (s.handle time key).1
  | .tables tables => s.withTables tables

/-- The session after a number of things have happened. -/
def run (s : Session) (turns : List Turn) : Session :=
  turns.foldl after s

end Session

end WastePass
