/-!
# Reading from a text — values that are known by what is written

    A kind of value that has one way of being read from a text is an instance of
    `FromText`, together with what is said of a text that gives no value.
-/

namespace WastePass

/-- Values that are read from texts, or else a reason why there is none. -/
class FromText (α : Type) (ε : outParam Type) where
  fromText : String → Except ε α

end WastePass
