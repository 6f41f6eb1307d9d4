import WastePass.Display.DistrictScreen
import WastePass.Display.LookupScreen

/-!
# Drawing — a session on a terminal of some size

    Every screen has a header on top and a status line at the bottom; what is between
    them belongs to the screen. When there is little room the header goes first. The
    status line tells the newest outcome if it is an error, and then is red.
-/

namespace WastePass.Display

/-- The parts that all screens share. -/
def headerText : String := "afvalpas – waste pass lookup by postal code"

/-- What the keys of a screen do. -/
def hint : Screen → String
  | .lookup =>
      "Type to edit · Tab switch field · Enter look up · Esc clear · F2 districts · Ctrl-C quit"
  | .districts => "↑/↓ move · Esc/←/b/F2 back to lookup · q/Ctrl-C quit"

/-- The newest outcome of a history, if it is an error. -/
def lastError (history : List LookupRecord) : Option LookupError :=
  match history.head? with
  | some record =>
    match record.outcome with
    | .error e => some e
    | .ok _ => none
  | none => none

/-- The status line. -/
def statusPane (width height : Nat) (screen : Screen) (error : Option LookupError) : Pane :=
  match error with
  | some e =>
    let style := Style.ofColour .red
    wrappedBox width height style "Status" [oneLine {} (e.message ++ " · " ++ hint screen)]
  | none => wrappedBox width height {} "Status" [oneLine {} (hint screen)]

/-- What a screen shows between the header and the status line. -/
def contentPane (width height : Nat) (s : Session) : Pane :=
  match s.screen with
  | .lookup    => lookupPane width height (.ofSession s)
  | .districts => districtPane width height (.ofSession s)

/-- What a session shows inside the margin. -/
def sessionPane (width height : Nat) (s : Session) : Pane :=
  let header := textBox width (min 3 height) {} "Afvalpas" headerText
  let content := contentPane width (height - 6) s
  let status := statusPane width (min 3 (height - 3)) s.screen (lastError s.history)
  header.above (content.above status)

/-- What a session shows on a terminal. -/
def draw (width height : Nat) (s : Session) : Pane :=
  if width < 2 ∨ height < 2 then .blank width height
  else (sessionPane (width - 2) (height - 2) s).withMargin

end WastePass.Display
