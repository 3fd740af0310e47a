import ImsiPseudonym.CommandLine.Reader
import ImsiPseudonym.Program
import Std.Time.DateTime.Timestamp

/-!
The command line program.  This build has neither a TLS connection nor external programs, so that
every exchange with a server fails to connect and no SIM is ever asked.
-/
namespace ImsiPseudonym

def clock : IO Instant := do
  return (← Std.Time.Timestamp.now).toMillisecondsSinceUnixEpoch.val

/-- The longest time that can be waited at once, in milliseconds. -/
def longestPause : Nat := 0xFFFFFFFF

partial def pause (span : Nat) : IO Unit := do
  IO.sleep (min span longestPause).toUInt32
  if longestPause < span then pause (span - longestPause)

/-- Fetches and reports until it is interrupted. -/
partial def keepFresh (delay : Millis) (w : Watch) : IO Unit := do
  pause delay.toNat
  let partners := Partners.unreachable w.engine.server
  match (w.engine.fetch.play partners).result with
  | none => return
  | some (result, engine) =>
    let (line, next, w) := w.note (← clock) result engine
    IO.print line
    (← IO.getStdout).flush
    match next with
    | some delay => keepFresh delay w
    | none =>
      pause failureTimeout.toNat
      let (delay, w) := w.resume (← clock)
      keepFresh delay w

/-- Runs a subcommand and gives the exit code. -/
def execute (c : CommandLine) : IO Nat := do
  match c.arguments.engine with
  | .error e =>
    IO.eprintln ("ERROR " ++ e.message)
    return failureExitCode
  | .ok engine =>
    match c.subcommand with
    | .fetch =>
      match CommandLine.Subcommand.fetch.run c.arguments (← clock) (.unreachable engine.server) with
      | .error e =>
        IO.eprintln ("ERROR " ++ e.message)
        return failureExitCode
      | .ok result =>
        IO.print result.printed
        return result.exitCode
    | .watch =>
      let (delay, w) := Watch.start c.arguments.carrier engine (← clock)
      keepFresh delay w
      return 0

end ImsiPseudonym

open ImsiPseudonym in
def main (args : List String) : IO UInt32 := do
  let env : CommandLine.Environment :=
    ⟨← IO.getEnv "SES_SERVER_URL", ← IO.getEnv "SES_TIMEOUT_SECS"⟩
  match CommandLine.ofTokens env args with
  | .ok c => return (← execute c).toUInt32
  | .error stop =>
    IO.eprint stop.complaint
    IO.print stop.result.printed
    return stop.result.exitCode.toUInt32
