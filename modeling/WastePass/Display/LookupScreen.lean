import WastePass.Console.Session
import WastePass.Display.Pane
import WastePass.Display.Wrapping
import WastePass.Text.Lines

/-!
# The lookup screen — fields, result and history

    Two fields stand side by side on top, the one being edited in yellow. Below them is
    what the newest lookup gave, and below that one item for each lookup, as many as
    are there in full. Nothing but a `LookupView` decides what is shown.
-/

namespace WastePass.Display

open WastePass.Text (lines)

/-- What the lookup screen shows. The history has the newest lookup first. -/
structure LookupView where
  postalCode : String
  houseNumber : String
  focus : InputField
  history : List LookupRecord
  historyLimit : Nat
  deriving DecidableEq

/-- What the lookup screen shows of a session. -/
def LookupView.ofSession (s : Session) : LookupView where
  postalCode := s.postalCode
  houseNumber := s.houseNumber
  focus := s.focus
  history := s.history
  historyLimit := s.historyLimit

/-- What is said about containers. -/
def containerLabel (pass : Pass) : String :=
  if pass.hasContainer then "Container available" else "No container at this address"

/-- The colour of what is said about containers. -/
def containerColour (pass : Pass) : Colour :=
  if pass.hasContainer then .green else .yellow

/-- What is said about a lookup that gave no pass. -/
def errorLabel : LookupError → String
  | .invalid reason => "Invalid " ++ reason.field ++ ": " ++ reason.message
  | .notFound stage => (LookupError.notFound stage).message

/-- The sign at the end of the field that is edited. -/
def cursor : String := "▏"

/-- A text in a frame, without wrapping. -/
def textBox (width height : Nat) (style : Style) (title text : String) : Pane :=
  let rows := (lines text.toList).map fun line =>
    Cell.flow style (cut (width - 2) (Glyph.ofText {} line))
  .framed width height style title (.ofRows (width - 2) (height - 2) style rows)

/-- A field, which is yellow while it is edited. -/
def inputBox (width height : Nat) (title value : String) (focused : Bool) : Pane :=
  if focused then textBox width height .active title (value ++ cursor)
  else textBox width height {} title value

/-- Lines in a frame, wrapped where they are too long. -/
def wrappedBox (width height : Nat) (style : Style) (title : String)
    (content : List (List Glyph)) : Pane :=
  let rows := (content.flatMap (wrap (width - 2))).map (Cell.flow style)
  .framed width height style title (.ofRows (width - 2) (height - 2) style rows)

/-- The glyphs of a text whose line ends are left out. -/
def oneLine (style : Style) (text : String) : List Glyph :=
  (lines text.toList).flatMap (Glyph.ofText style)

/-- What the newest lookup gave, line by line. -/
def resultLines : Option LookupRecord → List (List Glyph)
  | none => [oneLine {} "Enter a postal code and press Enter."]
  | some record =>
    match record.outcome with
    | .error e => [oneLine (.ofColour .red) (errorLabel e)]
    | .ok pass =>
      [oneLine {} ("District:     " ++ pass.district.name),
       oneLine {} ("Pass number:  " ++ pass.passNumber),
       oneLine (.ofColour (containerColour pass)) (containerLabel pass)]

/-- A text with blanks behind it up to a number of characters. -/
def padded (length : Nat) (text : String) : String :=
  text ++ String.ofList (List.replicate (length - text.length) ' ')

/-- The text that was looked up, and the house number. -/
def queryText (record : LookupRecord) : String :=
  match record.houseNumber with
  | none => record.postalCode
  | some number => record.postalCode ++ " " ++ number

/-- What a lookup gave, in short. -/
def summary : Outcome → String
  | .ok pass => pass.district.name ++ " · " ++ pass.passNumber ++ " · " ++ containerLabel pass
  | .error e => errorLabel e

/-- The colour of a lookup in the history. -/
def summaryColour : Outcome → Colour
  | .ok _ => .green
  | .error _ => .red

/-- An item of a list: its lines and their style. -/
structure Item where
  lines : List (List Char)
  style : Style
  deriving DecidableEq, Repr

/-- The item of a lookup. -/
def historyItem (record : LookupRecord) : Item where
  lines := lines
    (record.time.text ++ "  " ++ padded 14 (queryText record) ++ " " ++
      summary record.outcome).toList
  style := .ofColour (summaryColour record.outcome)

/-- The items of the history. -/
def historyItems (history : List LookupRecord) : List Item :=
  if history.isEmpty then [⟨["No lookups yet.".toList], {}⟩] else history.map historyItem

/-- The items at the front that have room for all their lines. -/
def itemsThatFit (height : Nat) : List Item → List Item
  | [] => []
  | item :: items =>
    if item.lines.length ≤ height then
      item :: itemsThatFit (height - item.lines.length) items
    else []

/-- The row of a line of an item. -/
def itemRow (width : Nat) (style : Style) (line : List Char) : List Cell :=
  let cells := Cell.place width style (Glyph.ofText {} line)
  cells ++ List.replicate (width - cells.length) (Cell.ground style)

/-- Items in a frame. -/
def listBox (width height : Nat) (title : String) (items : List Item) : Pane :=
  let rows := (itemsThatFit (height - 2) items).flatMap fun item =>
    item.lines.map (itemRow (width - 2) item.style)
  .framed width height {} title (.ofRows (width - 2) (height - 2) {} rows)

/-- The heights of the fields and of the result. Both are cut alike when there is little
    room, but the fields never take more than they need. -/
def lookupHeights (height : Nat) : Nat × Nat :=
  if 8 ≤ height then (3, 5)
  else if 6 ≤ height then (3, height - 3)
  else ((height + 1) / 2, height / 2)

/-- The two fields. -/
def fieldsPane (width height : Nat) (view : LookupView) : Pane :=
  let left := (width + 1) / 2
  let code := inputBox left height "Postal code (1234 AB)" view.postalCode
    (view.focus = .postalCode)
  let number := inputBox (width - left) height "House number (optional)" view.houseNumber
    (view.focus = .houseNumber)
  code.beside number

/-- The lookup screen without the parts that all screens share. -/
def lookupPane (width height : Nat) (view : LookupView) : Pane :=
  let (top, middle) := lookupHeights height
  let result := wrappedBox width middle {} "Result" (resultLines view.history.head?)
  let history := listBox width (height - top - middle)
    ("History (last " ++ toString view.historyLimit ++ ")") (historyItems view.history)
  (fieldsPane width top view).above (result.above history)

end WastePass.Display
