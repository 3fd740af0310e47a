/-!
Instants and spans of time, in milliseconds; an instant counts from the start of 1970 UTC.  Both are
unbounded integers.  Only `Instant.later` knows the end of a signed 64-bit counter, where it stops; a
difference of two instants is exact, and what a counter would do with one that it cannot hold is left
out.  Results that depend on it say for which instants every value on the way fits the counter.
-/
namespace ImsiPseudonym

/-- Milliseconds since the start of 1970 UTC. -/
abbrev Instant := Int

abbrev Millis := Int

/-- The last instant of a 64-bit counter. -/
def Instant.last : Instant := 0x7FFFFFFFFFFFFFFF

/-- The first instant of a 64-bit counter. -/
def Instant.first : Instant := -0x8000000000000000

/-- The longest span of a 64-bit counter. -/
def Millis.longest : Millis := 0x7FFFFFFFFFFFFFFF

def second : Millis := 1000

def minute : Millis := 60 * second

def hour : Millis := 60 * minute

def day : Millis := 24 * hour

/-- The instant a positive span later, or the last one of all. -/
def Instant.later (t : Instant) (span : Millis) : Instant :=
  min (t + span) Instant.last

end ImsiPseudonym
