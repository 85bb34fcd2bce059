import ProgramGuide.Calendar.Instant

/-!
# Time zones

A zone is known by the local dates of its instants.  Which zones there are is up to the
host and to its zone database.
-/

namespace ProgramGuide

structure Zone where
  localDate : Instant → Date

/-- A zone that is always the same number of seconds ahead of UTC. -/
def Zone.fixed (offset : Int) : Zone where
  localDate t := (⟨t.seconds + offset, t.nanos⟩ : Instant).date

/-- The zone of the host, and the zones of the database by name. -/
structure Zones where
  system : Zone
  named? : String → Option Zone

end ProgramGuide
