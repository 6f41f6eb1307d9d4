/-!
# Styles — colour and weight

    A style says something about the colour or leaves it as it is, and can make text
    bold. Laying one style onto another keeps what the upper one says nothing about.
-/

namespace WastePass.Display

/-- The colours in use. -/
inductive Colour where
  | yellow
  | red
  | green
  | darkGray
  deriving DecidableEq, Repr

/-- How text is shown. Without a colour it has the one of the terminal. -/
structure Style where
  colour : Option Colour := none
  bold : Bool := false
  deriving DecidableEq, Repr

namespace Style

/-- The style of a colour. -/
def ofColour (c : Colour) : Style := { colour := some c }

/-- Yellow and bold, for what the user is at. -/
def active : Style := { colour := some .yellow, bold := true }

/-- A style laid onto another. -/
def onto (upper lower : Style) : Style where
  colour := upper.colour.or lower.colour
  bold := upper.bold || lower.bold

end Style

end WastePass.Display
