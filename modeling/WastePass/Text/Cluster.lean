import WastePass.Text.Property.Breaking
import WastePass.Text.Property.Extending

/-!
# Clusters — the characters that readers take for one

    A text is cut into clusters at every place where the characters on both sides do not
    belong together. Whether they do is told by the class of the next character and by a
    short memory of the cluster so far. The clusters of a text give it back when they are
    put one behind the other (`clusters_flatten`).
-/

namespace WastePass.Text

/-- A cluster of characters. -/
abbrev Cluster := List Char

namespace Cluster

/-- The classes of characters that decide about cuts. -/
inductive Kind where
  | carriageReturn
  | lineFeed
  | control
  | extending
  | joiner
  | spacingMark
  | prepended
  | flagLetter
  | leadingJamo
  | vowelJamo
  | trailingJamo
  | openSyllable
  | closedSyllable
  | other
  deriving DecidableEq, Repr

/-- A character that changes the tone of the skin. -/
def isTone (c : Char) : Bool := 0x1F3FB ≤ c.toNat && c.toNat ≤ 0x1F3FF

/-- A letter that is half of a flag. -/
def isFlagLetter (c : Char) : Bool := 0x1F1E6 ≤ c.toNat && c.toNat ≤ 0x1F1FF

/-- Letters at the beginning of a syllable. -/
def leadingJamo : CodeRanges := [(0x1100, 0x115F), (0xA960, 0xA97C)]

/-- Vowels in a syllable. -/
def vowelJamo : CodeRanges :=
  [(0x1160, 0x11A7), (0xD7B0, 0xD7C6), (0x16D63, 0x16D63), (0x16D67, 0x16D6A)]

/-- Letters at the end of a syllable. -/
def trailingJamo : CodeRanges := [(0x11A8, 0x11FF), (0xD7CB, 0xD7FB)]

/-- Syllables in one character. -/
def syllable : CodeRanges := [(0xAC00, 0xD7A3)]

/-- The class of a character. -/
def kind (c : Char) : Kind :=
  if c = '\r' then .carriageReturn
  else if c = '\n' then .lineFeed
  else if c = '\u200d' then .joiner
  else if c.toNat < 0x7F then (if c.toNat < 0x20 then .control else .other)
  else if isFlagLetter c then .flagLetter
  else if Property.extending.mem c || isTone c then .extending
  else if Property.control.mem c then .control
  else if Property.spacingMark.mem c then .spacingMark
  else if Property.prepended.mem c then .prepended
  else if leadingJamo.mem c then .leadingJamo
  else if vowelJamo.mem c then .vowelJamo
  else if trailingJamo.mem c then .trailingJamo
  else if syllable.mem c then
    (if (c.toNat - 0xAC00) % 28 = 0 then .openSyllable else .closedSyllable)
  else .other

/-- Consonants that a linking sign joins to the consonant before it. -/
def linkable : CodeRanges := [
  (0x915, 0x939), (0x958, 0x95F), (0x978, 0x97F), (0x995, 0x9A8), (0x9AA, 0x9B0),
  (0x9B2, 0x9B2), (0x9B6, 0x9B9), (0x9DC, 0x9DD), (0x9DF, 0x9DF), (0x9F0, 0x9F1),
  (0xA95, 0xAA8), (0xAAA, 0xAB0), (0xAB2, 0xAB3), (0xAB5, 0xAB9), (0xAF9, 0xAF9),
  (0xB15, 0xB28), (0xB2A, 0xB30), (0xB32, 0xB33), (0xB35, 0xB39), (0xB5C, 0xB5D),
  (0xB5F, 0xB5F), (0xB71, 0xB71), (0xC15, 0xC28), (0xC2A, 0xC39), (0xC58, 0xC5A),
  (0xD15, 0xD3A)]

/-- The signs that link consonants. -/
def isLink (c : Char) : Bool :=
  [0x94D, 0x9CD, 0xACD, 0xB4D, 0xC4D, 0xD4D].contains c.toNat

/-- What a cluster has to remember to tell whether it goes on: the class of its last
    character, and whether it ends in a picture or a consonant with marks on it, behind these
    in a joiner or a link, or in half a flag. -/
structure Memory where
  last : Kind
  picture : Bool
  joinedPicture : Bool
  consonant : Bool
  linked : Bool
  halfFlag : Bool
  deriving DecidableEq, Repr

namespace Memory

/-- The memory of a cluster of one character. -/
def first (c : Char) : Memory where
  last := kind c
  picture := Property.pictographic.mem c
  joinedPicture := false
  consonant := linkable.mem c
  linked := false
  halfFlag := isFlagLetter c

/-- A character that may stand on a consonant without ending it. -/
def isMark (k : Kind) (c : Char) : Bool :=
  k = .joiner || (k = .extending && c ≠ '\u200c')

/-- The memory after one more character. -/
def next (m : Memory) (c : Char) : Memory :=
  let k := kind c
  { last := k
    picture := Property.pictographic.mem c || (m.picture && k = .extending)
    joinedPicture := m.picture && k = .joiner
    consonant := linkable.mem c || (m.consonant && isMark k c)
    linked := m.consonant && isMark k c && (m.linked || isLink c)
    halfFlag := isFlagLetter c && !m.halfFlag }

/-- Whether the next character belongs to the cluster. -/
def goesOn (m : Memory) (c : Char) : Bool :=
  let k := kind c
  match m.last, k with
  | .carriageReturn, .lineFeed => true
  | .carriageReturn, _ | .lineFeed, _ | .control, _ => false
  | _, .carriageReturn | _, .lineFeed | _, .control => false
  | _, .extending | _, .joiner | _, .spacingMark => true
  | .prepended, _ => true
  | .leadingJamo, .leadingJamo | .leadingJamo, .vowelJamo
  | .leadingJamo, .openSyllable | .leadingJamo, .closedSyllable => true
  | .openSyllable, .vowelJamo | .openSyllable, .trailingJamo
  | .vowelJamo, .vowelJamo | .vowelJamo, .trailingJamo => true
  | .closedSyllable, .trailingJamo | .trailingJamo, .trailingJamo => true
  | .flagLetter, .flagLetter => m.halfFlag
  | _, _ =>
      (m.joinedPicture && Property.pictographic.mem c) || (m.linked && linkable.mem c)

end Memory

end Cluster

/-- Cuts what follows a cluster that has been begun. -/
def clustersFrom (m : Cluster.Memory) (begun : List Char) : List Char → List Cluster
  | [] => [begun.reverse]
  | c :: cs =>
    if m.goesOn c then clustersFrom (m.next c) (c :: begun) cs
    else begun.reverse :: clustersFrom (.first c) [c] cs

/-- The clusters of a text. -/
def clusters : List Char → List Cluster
  | [] => []
  | c :: cs => clustersFrom (.first c) [c] cs

theorem clustersFrom_flatten (m : Cluster.Memory) (begun cs : List Char) :
    (clustersFrom m begun cs).flatten = begun.reverse ++ cs := by
  induction cs generalizing m begun with
  | nil => simp [clustersFrom]
  | cons c cs ih =>
    by_cases h : m.goesOn c <;> simp [clustersFrom, h, ih]

theorem clusters_flatten (cs : List Char) : (clusters cs).flatten = cs := by
  cases cs with
  | nil => rfl
  | cons c cs => simp [clusters, clustersFrom_flatten]

end WastePass.Text
