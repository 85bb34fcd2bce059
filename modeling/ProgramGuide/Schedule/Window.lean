import ProgramGuide.Calendar.Zone

/-!
# The dates of a window

Both ends of a window are read as UTC and as local dates, and the wider span of dates
is asked for.
-/

namespace ProgramGuide

def datesAround (localDate : Instant → Date) (start stop : Instant) : List Date :=
  (start.date.min (localDate start)).upTo (stop.date.max (localDate stop))

def requestDates (start stop : Instant) (zone : Zone) : List Date :=
  datesAround zone.localDate start stop

end ProgramGuide
