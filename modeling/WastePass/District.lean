import WastePass.Text.Blank
import WastePass.Text.FromText

/-!
# Districts — the nine parts of the city that issue waste passes

    A district is known by its name. `ofName?` reads a name as people write it: blanks
    around it, case and underscores in place of hyphens do not matter. No two names
    are alike up to that freedom, so the reading is never ambiguous.
-/

namespace WastePass

/-- The districts that issue waste passes. -/
inductive District where
  | centrum
  | nieuwWest
  | noord
  | oost
  | west
  | zuid
  | zuidoost
  | weesp
  | westpoort
  deriving DecidableEq, Repr

namespace District

/-- Every district, in the order the municipality lists them. -/
def all : List District :=
  [.centrum, .nieuwWest, .noord, .oost, .west, .zuid, .zuidoost, .weesp, .westpoort]

/-- The name the municipality uses. -/
def name : District → String
  | .centrum   => "Centrum"
  | .nieuwWest => "Nieuw-West"
  | .noord     => "Noord"
  | .oost      => "Oost"
  | .west      => "West"
  | .zuid      => "Zuid"
  | .zuidoost  => "Zuidoost"
  | .weesp     => "Weesp"
  | .westpoort => "Westpoort"

/-- The name as one word. -/
def word : District → String
  | .centrum   => "Centrum"
  | .nieuwWest => "NieuwWest"
  | .noord     => "Noord"
  | .oost      => "Oost"
  | .west      => "West"
  | .zuid      => "Zuid"
  | .zuidoost  => "Zuidoost"
  | .weesp     => "Weesp"
  | .westpoort => "Westpoort"

/-- The name that documents use where it is not the word. -/
def otherName? : District → Option String
  | .nieuwWest => some "Nieuw-West"
  | _          => none

/-- The name that documents use. -/
def documentName (d : District) : String :=
  d.otherName?.getD d.word

/-- The place of a district in `all`. -/
def index (d : District) : Nat :=
  all.idxOf d

/-- Two texts that differ at most in the case of ASCII letters. -/
def sameUpToCase (a b : List Char) : Bool :=
  a.map Char.toLower == b.map Char.toLower

/-- A name with the blanks around it cut off and hyphens for underscores. -/
def normalised (text : String) : List Char :=
  (Text.trim text.toList).map fun c => if c = '_' then '-' else c

/-- The district a text names, if it names one. -/
def ofName? (text : String) : Option District :=
  all.find? fun d => sameUpToCase d.name.toList (normalised text)

/-- The district with exactly this name. -/
def ofExactName? (text : String) : Option District :=
  all.find? fun d => d.name == text

/-- What is said of a text that names no district. -/
def unknownMessage (text : String) : String :=
  "Unknown district: " ++ text

end District

/-- A text that names no district, as it was given. -/
structure UnknownDistrict where
  text : String
  deriving DecidableEq, Repr

instance : FromText District UnknownDistrict where
  fromText text :=
    match District.ofName? text with
    | some d => .ok d
    | none   => .error ⟨text⟩

end WastePass
