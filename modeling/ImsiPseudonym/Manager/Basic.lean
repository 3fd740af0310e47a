import ImsiPseudonym.Backoff
import ImsiPseudonym.Record
import ImsiPseudonym.Table

/-!
The manager of the pseudonyms of several carriers.  It keeps each carrier's record and its failures,
and says when to retrieve a pseudonym: when the record should be refreshed, after the delay that fits
a failure, or a week after the last failure when there has been no retry since.
-/
namespace ImsiPseudonym

open Text

/-- How long after a failure a retrieval is tried without any other occasion. -/
def failureTimeout : Millis := 7 * day

/-- Retrievals after authentication errors are spread over this time. -/
def jitterWindow : Nat := 10000

structure CarrierState where
  record : Option Record
  connectionRetries : Nat
  serverRetries : Nat
  /-- The instant of the last failure or scheduled retrieval, zero after a success. -/
  lastFailure : Instant
deriving DecidableEq

namespace CarrierState

def fresh : CarrierState := ⟨none, 0, 0, 0⟩

def retries (s : CarrierState) : FailureReason → Nat
  | .connection => s.connectionRetries
  | _ => s.serverRetries

def countRetry (s : CarrierState) : FailureReason → CarrierState
  | .connection => { s with connectionRetries := s.connectionRetries + 1 }
  | _ => { s with serverRetries := s.serverRetries + 1 }

def diagnostic (s : CarrierState) : String :=
  Diagnostic.structured "CarrierState" [
    ("record", Diagnostic.optional (s.record.map Record.diagnostic)),
    ("connection_retries", Decimal.natText s.connectionRetries),
    ("server_retries", Decimal.natText s.serverRetries),
    ("last_failure_millis", Decimal.intText s.lastFailure)]

end CarrierState

/-- One who wants to be told of new pseudonyms. -/
structure Listener where
  name : String
deriving DecidableEq, Repr

structure Notification where
  listener : Listener
  carrier : CarrierId
  pseudonym : String
deriving DecidableEq

structure Manager where
  carriers : Table CarrierId CarrierState
  /-- In the order of their registrations, each once. -/
  listeners : List Listener

inductive ManagerError where
  | noRecord (carrier : CarrierId)
  | invalidPseudonym (e : RecordError)
deriving DecidableEq

def ManagerError.message : ManagerError → String
  | .noRecord carrier => "no pseudonym record for " ++ carrier.text
  | .invalidPseudonym e => "invalid in-band pseudonym: " ++ e.message

namespace Manager

def empty : Manager := ⟨[], []⟩

def state (m : Manager) (carrier : CarrierId) : CarrierState :=
  (Table.get? m.carriers carrier).getD .fresh

/-- The record of a carrier, whether it still holds or not. -/
def record? (m : Manager) (carrier : CarrierId) : Option Record :=
  (m.state carrier).record

/-- The record of a carrier, if it still holds and belongs to an IMSI. -/
def validRecord? (m : Manager) (now : Instant) (carrier : CarrierId) (imsi : Imsi) :
    Option Record :=
  (m.record? carrier).filter fun r => !r.hasExpired now && imsi.agreesWith r.owner.digits

/-- The instant of the last failure or scheduled retrieval of a carrier, zero after a success and if
there was neither. -/
def lastFailure (m : Manager) (carrier : CarrierId) : Instant :=
  (m.state carrier).lastFailure

def modify (m : Manager) (carrier : CarrierId) (f : CarrierState → CarrierState) : Manager :=
  { m with carriers := Table.insert carrier (f (m.state carrier)) m.carriers }

def stamp (m : Manager) (now : Instant) (carrier : CarrierId) : Manager :=
  m.modify carrier fun s => { s with lastFailure := now }

/-- Adds a listener behind the others, unless it is among them. -/
def register (m : Manager) (listener : Listener) : Manager :=
  if listener ∈ m.listeners then m else { m with listeners := m.listeners ++ [listener] }

def unregister (m : Manager) (listener : Listener) : Manager :=
  { m with listeners := m.listeners.filter (· ≠ listener) }

/-- Keeps a record, and the delay until it should be refreshed. -/
def store (m : Manager) (now : Instant) (carrier : CarrierId) (r : Record) : Millis × Manager :=
  (r.timeToRefresh now,
    (m.modify carrier fun s => { s with record := some r }).stamp now carrier)

/-- Schedules a retrieval for when the record should be refreshed, or now if none holds. -/
def retrieveIfNeeded (m : Manager) (now : Instant) (carrier : CarrierId) (imsi : Imsi) :
    Millis × Manager :=
  let delay := match m.validRecord? now carrier imsi with
    | some r => r.timeToRefresh now
    | none => 0
  (delay, m.stamp now carrier)

/-- Schedules a retrieval after a drawn delay, if there is a record old enough for that. -/
def retrieveWithRateLimit (m : Manager) (now : Instant) (draw : Fin jitterWindow)
    (carrier : CarrierId) : Option Millis × Manager :=
  match m.record? carrier with
  | some r => if r.mayRefresh now then (some (draw.val : Int), m.stamp now carrier) else (none, m)
  | none => (none, m)

/-- Schedules a retrieval now, if no record holds and the last failure is long past. -/
def retrieveOnFailureTimeout (m : Manager) (now : Instant) (carrier : CarrierId) (imsi : Imsi) :
    Option Millis × Manager :=
  let last := m.lastFailure carrier
  if (m.validRecord? now carrier imsi).isNone ∧ 0 < last ∧ failureTimeout ≤ now - last then
    (some 0, m.stamp now carrier)
  else (none, m)

def notifications (m : Manager) (carrier : CarrierId) (pseudonym : String) : List Notification :=
  m.listeners.map fun listener => ⟨listener, carrier, pseudonym⟩

/-- Keeps a retrieved record, tells the listeners, and forgets the failures before it. -/
def onSuccess (m : Manager) (now : Instant) (carrier : CarrierId) (r : Record) :
    Millis × List Notification × Manager :=
  let (delay, stored) := m.store now carrier r
  let forgiven := stored.modify carrier fun s =>
    { s with lastFailure := 0, connectionRetries := 0, serverRetries := 0 }
  (delay, m.notifications carrier r.pseudonym, forgiven)

/-- Notes a failed retrieval, and the delay of the next retry, if there is one. -/
def onFailure (m : Manager) (now : Instant) (carrier : CarrierId) (reason : FailureReason) :
    Option Millis × Manager :=
  let failed := m.stamp now carrier
  match (Backoff.forReason? reason).bind (·.delay? ((m.state carrier).retries reason)) with
  | some delay => (some delay, failed.modify carrier (·.countRetry reason))
  | none => (none, failed)

/-- Replaces the pseudonym of a carrier by one learned from the network.  Owner and time stay, and
the clock starts anew. -/
def setInBand (m : Manager) (now : Instant) (carrier : CarrierId) (pseudonym : String) :
    Except ManagerError (Millis × Manager) :=
  match checkPseudonym pseudonym with
  | .error e => .error (.invalidPseudonym e)
  | .ok () =>
    match m.record? carrier with
    | none => .error (.noRecord carrier)
    | some r =>
      match Grant.ofTtl pseudonym r.owner r.ttl with
      | .error e => .error (.invalidPseudonym e)
      | .ok grant => .ok (m.store now carrier (grant.acquiredAt now))

/-- No replacement is refused for the time that it takes over. -/
theorem setInBand_eq (m : Manager) (now : Instant) (carrier : CarrierId) (pseudonym : String) :
    m.setInBand now carrier pseudonym =
      match checkPseudonym pseudonym, m.record? carrier with
      | .error e, _ => .error (.invalidPseudonym e)
      | .ok _, none => .error (.noRecord carrier)
      | .ok _, some r => .ok (m.store now carrier (r.replace pseudonym now)) := by
  rw [setInBand]
  cases checkPseudonym pseudonym with
  | error e => rfl
  | ok _ =>
    cases m.record? carrier with
    | none => rfl
    | some r =>
      dsimp only
      rw [r.ofTtl_eq]
      rfl

def diagnostic (m : Manager) : String :=
  Diagnostic.structured "PseudonymManager" [
    ("carriers",
      Diagnostic.mapped (m.carriers.map fun (carrier, s) => (carrier.diagnostic, s.diagnostic))),
    ("listeners", Decimal.natText m.listeners.length)]

end Manager
end ImsiPseudonym
