import ImsiPseudonym.CommandLine.Basic
import ImsiPseudonym.Engine
import ImsiPseudonym.Http.Exchange
import ImsiPseudonym.Manager.Basic
import ImsiPseudonym.Report
import ImsiPseudonym.Worker

/-!
The program behind the command line.  It checks the arguments and starts an engine.  Then it either
fetches one pseudonym and reports what came of it, or keeps a pseudonym fresh: it fetches, reports,
and waits for as long as the manager says.
-/
namespace ImsiPseudonym

open CommandLine

inductive RunError where
  | serverUrl (e : ConfigError)
  | imsi (e : ImsiError)
  | worker (e : WorkerError)

def RunError.message : RunError → String
  | .serverUrl e => "invalid --server-url: " ++ e.message
  | .imsi e => "invalid --imsi: " ++ e.message
  | .worker e => e.message

namespace CommandLine.Arguments

def checkedImsi (a : Arguments) : Except RunError Imsi :=
  (Imsi.ofString a.imsi).mapError .imsi

def config (a : Arguments) : Except RunError Config :=
  match Config.ofServer a.serverUrl with
  | .ok config => .ok { config with timeoutSecs := a.timeoutSecs }
  | .error e => .error (.serverUrl e)

def subscriber (a : Arguments) (imsi : Imsi) : Subscriber where
  imsi := imsi
  simOperator := a.simOperator
  imei := some a.imei
  softwareVersion := some a.softwareVersion
  deviceModel := a.deviceModel

/-- The engine that the arguments ask for.  The server is looked at before the IMSI. -/
def engine (a : Arguments) : Except RunError Engine := do
  let config ← a.config
  let imsi ← a.checkedImsi
  return .new (a.subscriber imsi) config.server Http.transportName

end CommandLine.Arguments

/-- The report of what came of a fetch. -/
def FetchResult.report (carrier : CarrierId) (now : Instant) : FetchResult → Json.Value
  | .ok (some grant) => (grant.acquiredAt now).report carrier
  | .ok none => FailureReason.nonTransient.report carrier nothingUsable
  | .error e => e.reason.report carrier e.message

/-- The exit code after a fetch: zero if it brought a record. -/
def FetchResult.exitCode : FetchResult → Nat
  | .ok (some _) => 0
  | _ => 1

structure RunResult where
  printed : String
  exitCode : Nat
deriving DecidableEq, Repr

def failureExitCode : Nat := 2

/-- The end of a run whose command line asks for nothing else than to be told something, or cannot be
followed. -/
def CommandLine.Stop.result : Stop → RunResult
  | .versionWanted => ⟨versionText, 0⟩
  | .helpWanted => ⟨helpText, 0⟩
  | _ => ⟨"", failureExitCode⟩

/-- What is said of such a command line beside the result. -/
def CommandLine.Stop.complaint : Stop → String
  | .versionWanted => ""
  | .helpWanted => ""
  | .nothingGiven => helpText
  | stop => "error: " ++ stop.message?.getD "" ++ "\n"

def FetchResult.finish (carrier : CarrierId) (now : Instant) (result : FetchResult) : RunResult where
  printed := (FetchResult.report carrier now result).indented ++ "\n"
  exitCode := result.exitCode

/-- Where a run that keeps a pseudonym fresh stands. -/
structure Watch where
  carrier : CarrierId
  engine : Engine
  manager : Manager

namespace Watch

def logListener : Listener := ⟨"log"⟩

/-- A run that has just been started, and the time until its first fetch. -/
def start (carrier : CarrierId) (engine : Engine) (now : Instant) : Millis × Watch :=
  let manager := Manager.empty.register logListener
  let (delay, manager) := manager.retrieveIfNeeded now carrier engine.subscriber.imsi
  (delay, ⟨carrier, engine, manager⟩)

/-- Notes what came of a fetch: the line to print, the time until the next fetch, if one is
scheduled, and the run afterwards. -/
def note (w : Watch) (now : Instant) (result : FetchResult) (engine : Engine) :
    String × Option Millis × Watch :=
  let line := (FetchResult.report w.carrier now result).compact ++ "\n"
  let (delay, manager) := match result with
    | .ok (some grant) =>
      let (delay, _, manager) := w.manager.onSuccess now w.carrier (grant.acquiredAt now)
      (some delay, manager)
    | .ok none => w.manager.onFailure now w.carrier .nonTransient
    | .error e => w.manager.onFailure now w.carrier e.reason
  (line, delay, { w with engine, manager })

/-- The time until the next fetch once the failure timeout has passed without one. -/
def resume (w : Watch) (now : Instant) : Millis × Watch :=
  let imsi := w.engine.subscriber.imsi
  match w.manager.retrieveOnFailureTimeout now w.carrier imsi with
  | (some delay, manager) => (delay, { w with manager })
  | (none, manager) =>
    let (delay, manager) := manager.retrieveIfNeeded now w.carrier imsi
    (delay, { w with manager })

end Watch

/-- Runs a subcommand against given partners, and interrupts a run that keeps a pseudonym fresh after
its first line; none if the SIM breaks it down. -/
def CommandLine.Subcommand.run (s : Subcommand) (a : Arguments) (now : Instant) (partners : Partners) :
    Except RunError RunResult := do
  let engine ← a.engine
  match (engine.fetch.play partners).result with
  | none => throw (.worker .dropped)
  | some (result, engine) =>
    match s with
    | .fetch => return result.finish a.carrier now
    | .watch =>
      let (line, _, _) := (Watch.start a.carrier engine now).2.note now result engine
      return ⟨line, 0⟩

/-- A server that no connection reaches, and a SIM that cannot be asked. -/
def Partners.unreachable (server : ServerUrl) : Partners where
  replies := []
  afterwards := .error (Http.connectionError server.url)
  sim _ _ := .answers none
  asked := 0

end ImsiPseudonym
