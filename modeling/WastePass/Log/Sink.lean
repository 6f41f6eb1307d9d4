import WastePass.Disk
import WastePass.Log.Filter

/-!
# Log sinks — where events are written

    A sink is a file that is added to and a filter. An event that the filter admits
    becomes a line behind a time stamp; the level is padded so that the lines align.
    What the file held before is never touched.
-/

namespace WastePass.Log

/-- A file that events are added to, and which of them are. -/
structure Sink where
  place : List String
  filter : Filter
  deriving DecidableEq

/-- The line of an event in a file. -/
def entry (stamp : String) (e : Event) : String :=
  let padding := String.ofList (List.replicate (5 - e.level.name.length) ' ')
  stamp ++ " " ++ padding ++ e.line ++ "\n"

namespace Sink

/-- The disk after an event. -/
def record (sink : Sink) (stamp : String) (disk : Disk) (e : Event) : Disk :=
  if sink.filter.admits e then
    disk.append sink.place (Text.Utf8.encode (entry stamp e))
  else disk

end Sink

/-- The disk after events, which are lost where there is no sink. -/
def recordAll (sink : Option Sink) (stamp : String) (disk : Disk) (events : List Event) :
    Disk :=
  match sink with
  | none => disk
  | some sink => events.foldl (sink.record stamp) disk

end WastePass.Log
