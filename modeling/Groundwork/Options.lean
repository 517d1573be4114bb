/-!
# Options

The switches of one command.
-/

namespace Groundwork

/-- The switches of one command, all off by default. -/
structure Options where
  /-- Overwrite files that exist, and replace a table that exists. -/
  force : Bool := false
  /-- Show what would happen and change nothing. -/
  dryRun : Bool := false
  /-- Primary keys are UUIDs and not counted up. -/
  uuid : Bool := false
  /-- Leave out the columns for the times of creation and change. -/
  noTimestamps : Bool := false
  deriving DecidableEq, Repr

end Groundwork
