import ImsiPseudonym.Failure
import ImsiPseudonym.Instant

/-!
How long to wait after a failure: a fixed row of delays for each reason that may pass, one delay for
each failure in a row, and no further retry after the last.
-/
namespace ImsiPseudonym

open Text

/-- A row of delays. -/
structure Backoff where
  delays : List Millis
deriving DecidableEq, Repr

namespace Backoff

def connection : Backoff :=
  ⟨[30 * second, minute, hour, 3 * hour, 9 * hour]⟩

def server : Backoff :=
  ⟨[5 * minute, 15 * minute, 30 * minute, 60 * minute, 120 * minute]⟩

/-- The delays after failures of a reason; failures that will not pass have none. -/
def forReason? : FailureReason → Option Backoff
  | .connection => some connection
  | .transient => some server
  | .nonTransient => none

/-- The delay after so many earlier failures, unless they have used up the row. -/
def delay? (b : Backoff) (earlier : Nat) : Option Millis :=
  b.delays[earlier]?

def maxRetries (b : Backoff) : Nat := b.delays.length

/-- The row in diagnostic text, in seconds. -/
def diagnostic (b : Backoff) : String :=
  let seconds (delay : Millis) := Decimal.intText (delay / second) ++ "s"
  Diagnostic.structured "RetrySchedule" [("delays", Diagnostic.listed (b.delays.map seconds))]

end Backoff
end ImsiPseudonym
