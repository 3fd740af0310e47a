import ImsiPseudonym.Manager.Basic

/-!
Operations on a manager as data, and runs of them.  Each operation is carried out at one reading of
the clock and with one random draw, and gives an answer.
-/
namespace ImsiPseudonym

namespace Manager

inductive CarrierOperation where
  | record
  | validRecord (imsi : Imsi)
  | retrieveIfNeeded (imsi : Imsi)
  | retrieveWithRateLimit
  | retrieveOnFailureTimeout (imsi : Imsi)
  | onSuccess (r : Record)
  | onFailure (reason : FailureReason)
  | setInBand (pseudonym : String)

inductive Operation where
  | register (listener : Listener)
  | unregister (listener : Listener)
  | carrier (carrier : CarrierId) (op : CarrierOperation)

inductive Answer where
  | nothing
  | record (r : Option Record)
  | delay (delay : Option Millis)
  | refused (e : ManagerError)
deriving DecidableEq

/-- An answer, the notifications sent meanwhile, and the manager afterwards. -/
structure Effect where
  answer : Answer
  notified : List Notification
  manager : Manager

/-- The circumstances of an operation: what the clock shows, and a random draw. -/
structure Circumstance where
  now : Instant
  draw : Fin jitterWindow

/-- Carries out an operation on one carrier. -/
def performOn (m : Manager) (moment : Circumstance) (carrier : CarrierId) :
    CarrierOperation → Effect
  | .record => ⟨.record (m.record? carrier), [], m⟩
  | .validRecord imsi => ⟨.record (m.validRecord? moment.now carrier imsi), [], m⟩
  | .retrieveIfNeeded imsi =>
    let (delay, m) := m.retrieveIfNeeded moment.now carrier imsi
    ⟨.delay (some delay), [], m⟩
  | .retrieveWithRateLimit =>
    let (delay, m) := m.retrieveWithRateLimit moment.now moment.draw carrier
    ⟨.delay delay, [], m⟩
  | .retrieveOnFailureTimeout imsi =>
    let (delay, m) := m.retrieveOnFailureTimeout moment.now carrier imsi
    ⟨.delay delay, [], m⟩
  | .onSuccess r =>
    let (delay, notified, m) := m.onSuccess moment.now carrier r
    ⟨.delay (some delay), notified, m⟩
  | .onFailure reason =>
    let (delay, m) := m.onFailure moment.now carrier reason
    ⟨.delay delay, [], m⟩
  | .setInBand pseudonym =>
    match m.setInBand moment.now carrier pseudonym with
    | .ok (delay, m) => ⟨.delay (some delay), [], m⟩
    | .error e => ⟨.refused e, [], m⟩

def perform (m : Manager) (moment : Circumstance) : Operation → Effect
  | .register listener => ⟨.nothing, [], m.register listener⟩
  | .unregister listener => ⟨.nothing, [], m.unregister listener⟩
  | .carrier carrier op => m.performOn moment carrier op

/-- Carries out operations one after the other, each in its own circumstances. -/
def run (m : Manager) : List (Circumstance × Operation) → List Effect
  | [] => []
  | (moment, op) :: rest =>
    let effect := m.perform moment op
    effect :: effect.manager.run rest

def after (m : Manager) (ops : List (Circumstance × Operation)) : Manager :=
  ops.foldl (fun m (moment, op) => (m.perform moment op).manager) m

end Manager
end ImsiPseudonym
