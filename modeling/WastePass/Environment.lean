/-!
# The environment — named settings

    A name has the value of the first entry with that name. Entries that are added
    later never change a name that has a value already.
-/

namespace WastePass

/-- Names and their values. -/
abbrev Environment := List (String × String)

namespace Environment

/-- The value of a name. -/
def get? (env : Environment) (name : String) : Option String :=
  (env.find? fun entry => entry.1 = name).map (·.2)

/-- The environment with a value for a name that has none. -/
def add (env : Environment) (name value : String) : Environment :=
  match env.get? name with
  | some _ => env
  | none => env ++ [(name, value)]

end Environment

end WastePass
