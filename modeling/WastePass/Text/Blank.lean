/-!
# Blank characters — the Unicode property White_Space

    Postal codes are read with their blanks left out, house numbers and settings with
    the blanks around them cut off. Both use the one notion of `isBlank`, so cutting
    first never changes what leaving out gives.
-/

namespace WastePass.Text

/-- A character with the Unicode property White_Space. -/
def isBlank (c : Char) : Bool :=
  let n := c.toNat
  (9 ≤ n && n ≤ 13) || n == 0x20 || n == 0x85 || n == 0xA0 || n == 0x1680 ||
    (0x2000 ≤ n && n ≤ 0x200A) || n == 0x2028 || n == 0x2029 || n == 0x202F ||
    n == 0x205F || n == 0x3000

/-- The characters without the blanks at the front. -/
def trimStart (cs : List Char) : List Char :=
  cs.dropWhile isBlank

/-- The characters without the blanks at the end. -/
def trimEnd (cs : List Char) : List Char :=
  (cs.reverse.dropWhile isBlank).reverse

/-- The characters without the blanks at either end. -/
def trim (cs : List Char) : List Char :=
  trimEnd (trimStart cs)

/-- A text without the blanks around it. -/
def trimmed (text : String) : String :=
  String.ofList (trim text.toList)

/-- A text of blanks only, the empty text included. -/
def allBlank (text : String) : Bool :=
  text.toList.all isBlank

/-- A text without any of its blanks. -/
def withoutBlanks (text : String) : List Char :=
  text.toList.filter fun c => !isBlank c

end WastePass.Text
