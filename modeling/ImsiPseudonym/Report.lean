import ImsiPseudonym.Calendar
import ImsiPseudonym.Failure
import ImsiPseudonym.Record

/-!
What is reported about a retrieval, as a JSON object: the record that it brought, or why it failed.
The owner of a record is left out.
-/
namespace ImsiPseudonym

open Json

/-- An instant as its text, or null where it has none. -/
def Instant.toJson (t : Instant) : Value :=
  .ofString? t.text?

def Record.report (r : Record) (carrier : CarrierId) : Value :=
  .ofMembers [
    ("carrier_id", carrier.toJson),
    ("pseudonym", .string r.pseudonym),
    ("ttl_millis", .int r.ttl),
    ("acquired_at", r.acquiredAt.toJson),
    ("refresh_at", r.refreshAt.toJson),
    ("expires_at", r.expiresAt.toJson)]

def FailureReason.report (reason : FailureReason) (carrier : CarrierId) (description : String) :
    Value :=
  .ofMembers [
    ("carrier_id", carrier.toJson),
    ("reason", .string reason.code),
    ("description", .string description)]

end ImsiPseudonym
