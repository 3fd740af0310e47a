import ImsiPseudonym.Engine
import ImsiPseudonym.Dialogue.Rehearsal

/-!
The worker that owns an engine and fetches one pseudonym at a time, in the order of the requests.
Callers queue a job and hear of it later, by a future or by a callback.  A future may be dropped
before that; a callback is called by a runtime of its own, some time after the worker has answered.
If a fetch breaks the worker down, the running job and those behind it are dropped, and later ones
are refused.
-/
namespace ImsiPseudonym

open Text

inductive WorkerError where
  | closed
  | dropped
  | panicked
  | entitlement (e : EntitlementError)
deriving DecidableEq, Repr

namespace WorkerError

def message : WorkerError → String
  | .closed => "entitlement worker is shut down"
  | .dropped => "entitlement worker dropped the request"
  | .panicked => "entitlement worker panicked"
  | .entitlement e => e.message

def kind : WorkerError → String
  | .closed => "Closed"
  | .dropped => "Dropped"
  | .panicked => "Panicked"
  | .entitlement e => e.kind

end WorkerError

/-- How the caller of a job hears of it. -/
inductive Channel where
  | future
  | callback
deriving DecidableEq, Repr

structure Job where
  number : Nat
  carrier : CarrierId
  channel : Channel
deriving DecidableEq

/-- What a future yields: what came of the fetch. -/
def yielded : FetchResult → Except WorkerError (Option Grant)
  | .ok grant => .ok grant
  | .error e => .error (.entitlement e)

inductive CallbackCall where
  | onSuccess (carrier : CarrierId) (grant : Grant)
  | onFailure (carrier : CarrierId) (reason : FailureReason) (description : String)
deriving DecidableEq

/-- How a callback is told of a server that granted nothing usable. -/
def nothingUsable : String := "no valid pseudonym received"

def CallbackCall.ofResult (carrier : CarrierId) : FetchResult → CallbackCall
  | .ok (some grant) => .onSuccess carrier grant
  | .ok none => .onFailure carrier .nonTransient nothingUsable
  | .error e => .onFailure carrier e.reason e.message

/-- What the worker is doing. -/
inductive Phase where
  | idle
  | busy (job : Job)
  /-- It has done a job, and not answered it yet. -/
  | holding (job : Job) (result : FetchResult)
  /-- A job broke it down and is lost, and it still holds its queue. -/
  | broken (job : Job)
  /-- It broke down and has given up its queue. -/
  | gone
  /-- It was shut down and has done all its jobs. -/
  | stopped

/-- How many steps there are to do at most from a phase, if the queue is empty: the delivery of the
answer counts, and the last step. -/
def Phase.left : Phase → Nat
  | .idle => 1
  | .busy _ => 4
  | .holding _ _ => 3
  | .broken _ => 1
  | .gone => 0
  | .stopped => 0

structure Worker where
  engine : Engine
  partners : Partners
  queue : List Job
  phase : Phase
  /-- Callers can still queue jobs, for all that they know. -/
  accepting : Bool
  accepted : Nat
  /-- The jobs whose futures have been dropped by their holders. -/
  forgotten : List Nat
  inbox : List (Nat × FetchResult)
  /-- The answers that runtimes have still to deliver to callbacks. -/
  deliveries : List (Job × FetchResult)
  calls : List (Nat × CallbackCall)
  turns : List Turn

namespace Worker

def start (engine : Engine) (partners : Partners) : Worker where
  engine
  partners
  queue := []
  phase := .idle
  accepting := true
  accepted := 0
  forgotten := []
  inbox := []
  deliveries := []
  calls := []
  turns := []

def isClosed (w : Worker) : Bool :=
  match w.phase with
  | .gone | .stopped => true
  | _ => false

def submit (w : Worker) (carrier : CarrierId) (channel : Channel) : Except WorkerError (Nat × Worker) :=
  if w.isClosed ∨ !w.accepting then .error .closed
  else
    .ok (w.accepted,
      { w with
        queue := w.queue ++ [⟨w.accepted, carrier, channel⟩]
        accepted := w.accepted + 1 })

def forget? (w : Worker) (number : Nat) : Option Worker :=
  if number < w.accepted then some { w with forgotten := number :: w.forgotten } else none

def close (w : Worker) : Worker :=
  { w with accepting := false }

def take? (w : Worker) : Option Worker :=
  match w.phase, w.queue with
  | .idle, job :: queue => some { w with queue, phase := .busy job }
  | _, _ => none

def run? (w : Worker) : Option Worker :=
  match w.phase with
  | .busy job =>
    let played := w.engine.fetch.play w.partners
    let w := { w with partners := played.partners, turns := w.turns ++ played.turns }
    match played.result with
    | some (result, engine) => some { w with engine, phase := .holding job result }
    | none => some { w with phase := .broken job }
  | _ => none

/-- Answers the job at hand.  Nobody gets the answer to a future that was dropped. -/
def reply? (w : Worker) : Option Worker :=
  match w.phase with
  | .holding job result =>
    let w := { w with phase := .idle }
    match job.channel with
    | .future =>
      if job.number ∈ w.forgotten then some w
      else some { w with inbox := w.inbox ++ [(job.number, result)] }
    | .callback => some { w with deliveries := w.deliveries ++ [(job, result)] }
  | _ => none

/-- Gives up the queue after a breakdown. -/
def giveUp? (w : Worker) : Option Worker :=
  match w.phase with
  | .broken _ => some { w with queue := [], phase := .gone }
  | _ => none

/-- Stops once no job is left and none can come. -/
def stop? (w : Worker) : Option Worker :=
  match w.phase, w.queue with
  | .idle, [] => if w.accepting then none else some { w with phase := .stopped }
  | _, _ => none

def deliver? (w : Worker) (place : Nat) : Option Worker :=
  match w.deliveries[place]? with
  | some (job, result) =>
    some { w with
      deliveries := w.deliveries.eraseIdx place
      calls := w.calls ++ [(job.number, .ofResult job.carrier result)] }
  | none => none

def step? (w : Worker) : Option Worker :=
  w.take? <|> w.run? <|> w.reply? <|> w.giveUp? <|> w.stop? <|> w.deliver? 0

def advance : Nat → Worker → Worker
  | 0, w => w
  | steps + 1, w =>
    match w.step? with
    | some next => next.advance steps
    | none => w

/-- How many steps there are to do at most: four for each job in the queue, which is taken, done,
answered and delivered. -/
def left (w : Worker) : Nat :=
  4 * w.queue.length + w.phase.left + w.deliveries.length

def settle (w : Worker) : Worker :=
  w.advance w.left

/-- The worker broke down over a job, or gave it up, and so dropped the sending end of its future. -/
def hasLost (w : Worker) (number : Nat) : Bool :=
  match w.phase with
  | .broken job => job.number = number
  | .gone => number < w.accepted
  | _ => false

/-- What the future of a job yields, once that is settled. -/
def await? (w : Worker) (number : Nat) : Option (Except WorkerError (Option Grant)) :=
  match w.inbox.find? fun letter => letter.1 = number with
  | some (_, result) => some (yielded result)
  | none => if w.hasLost number then some (.error .dropped) else none

def called? (w : Worker) (number : Nat) : Option CallbackCall :=
  (w.calls.find? fun call => call.1 = number).map Prod.snd

/-- What a shutdown reports, once the worker has come to its end. -/
def shutdown? (w : Worker) : Option (Except WorkerError Unit) :=
  match w.phase with
  | .stopped => some (.ok ())
  | .gone => some (.error .panicked)
  | _ => none

def threadName : String := "ses-entitlement"

def diagnostic (w : Worker) : String :=
  Diagnostic.structured "EntitlementWorker" [
    ("closed", Diagnostic.flag w.isClosed),
    ("thread", Diagnostic.optional (some (quoted threadName)))]

end Worker
end ImsiPseudonym
