import Groundwork.Disk.Basic

/-!
# Changes of a disk

What tells a disk from an earlier one: the directories made since, the files that are new or hold
something else, and the locations where nothing stands any more.
-/

namespace Groundwork

/-- The difference between two states of a disk. -/
structure Changes where
  made : List Location := []
  written : List (Location × Content) := []
  removed : List (Location × Entry) := []
  deriving Repr

/-- What happened between an earlier and a later state of a disk. -/
def Disk.changes (earlier later : Disk) : Changes where
  made := later.entries.filterMap fun (location, entry) =>
    if entry = .directory && (earlier.lookup? location).isNone then some location else none
  written := later.entries.filterMap fun (location, entry) =>
    match entry with
    | .directory => none
    | .file content =>
      if earlier.lookup? location = some entry then none else some (location, content)
  removed := earlier.entries.filter fun (location, _) => (later.lookup? location).isNone

end Groundwork
