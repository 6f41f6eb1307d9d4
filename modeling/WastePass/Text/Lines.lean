/-!
# Lines — the parts of a text between line ends

    A line ends with a line feed, perhaps with a carriage return before it. What stands
    behind the last line feed is a line only if there is something.
-/

namespace WastePass.Text

/-- A line without a carriage return at its end, given backwards. -/
def endLine : List Char → List Char
  | '\r' :: cs => cs.reverse
  | cs => cs.reverse

/-- The lines of a text behind the beginning of a line, which is given backwards. -/
def linesFrom (begun : List Char) : List Char → List (List Char)
  | [] => if begun.isEmpty then [] else [begun.reverse]
  | c :: cs =>
    if c = '\n' then endLine begun :: linesFrom [] cs else linesFrom (c :: begun) cs

/-- The lines of a text. -/
def lines (cs : List Char) : List (List Char) :=
  linesFrom [] cs

end WastePass.Text
