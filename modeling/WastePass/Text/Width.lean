import WastePass.Text.Cluster
import WastePass.Text.Property.Wide

/-!
# Widths — how many columns a cluster takes on the screen

    A cluster takes the columns of its characters, except where characters make one
    picture: a sign with the selector for pictures behind it, a person with a tone of
    skin, and pictures that are joined take the two columns of one picture.
-/

namespace WastePass.Text

/-- The columns of a character by itself. -/
def charWidth (c : Char) : Nat :=
  if c.toNat < 0x7F then 1
  else if Property.narrowless.mem c then 0
  else if Property.wide.mem c then 2
  else 1

namespace Cluster

/-- What stands behind a character, as far as it changes the columns it takes. The selector
    for pictures and a tone of skin may stand in front of a joined picture. -/
inductive Behind where
  | nothing
  | lineFeed
  | selector (joined : Bool)
  | tone (joined : Bool)
  | picture
  | joinedPicture
  deriving DecidableEq, Repr

/-- The selector for pictures. -/
def pictureSelector : Char := '\uFE0F'

/-- A character that is a picture by itself. -/
def isPicture (c : Char) : Bool :=
  Property.pictographic.mem c && Property.wide.mem c

/-- The columns a character takes in front of what is behind it, and what stands behind
    the character before it. -/
def placed (c : Char) (behind : Behind) : Nat × Behind :=
  let joined := behind = .joinedPicture
  match behind with
  | .selector j =>
      if Property.textPicture.mem c || isPicture c then (if j then 0 else 2, .picture)
      else (charWidth c, .nothing)
  | .tone j =>
      if Property.toneBase.mem c then (if j then 0 else 2, .picture)
      else (charWidth c + if j then 0 else 2, if isPicture c then .picture else .nothing)
  | _ =>
      if c = '\n' then (1, .lineFeed)
      else if c = '\r' then (if behind = .lineFeed then 0 else 1, .nothing)
      else if c = pictureSelector then (0, .selector joined)
      else if isTone c then (0, .tone joined)
      else if c = '\u200d' && behind = .picture then (0, .joinedPicture)
      else if isPicture c then (if joined then 0 else 2, .picture)
      else (charWidth c, .nothing)

/-- The columns of the characters from the front, and what they are to a character before
    them. -/
def measure : List Char → Nat × Behind
  | [] => (0, .nothing)
  | c :: cs =>
    let (columns, behind) := measure cs
    let (more, next) := placed c behind
    (columns + more, next)

/-- The columns a cluster takes. A tone of skin without anyone to bear it takes two. -/
def width (cluster : Cluster) : Nat :=
  match measure cluster with
  | (columns, .tone false) => columns + 2
  | (columns, _) => columns

end Cluster

end WastePass.Text
