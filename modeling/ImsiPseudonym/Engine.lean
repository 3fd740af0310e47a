import ImsiPseudonym.Dialogue.Basic
import ImsiPseudonym.Message.Response
import ImsiPseudonym.Subscriber

/-!
The engine that fetches a pseudonym.  It asks the server for a challenge, has the SIM answer it, and
asks for the pseudonym with that answer; the server then issues a token, with which the next fetch
goes straight to the last step.  A token that the server rejects is dropped, and the fetch starts
over once.
-/
namespace ImsiPseudonym

open Text

/-- One subscriber's client of one server. -/
structure Engine where
  subscriber : Subscriber
  server : ServerUrl
  transportName : String
  /-- The token of an earlier authentication. -/
  token : Option String

/-- What came of a fetch: a failure, or what the server granted, if that was usable. -/
abbrev FetchResult := Except EntitlementError (Option Grant)

def challengeRefused (code : ResponseCode) : EntitlementError :=
  if code = .invalidRequest ∨ code = .serverError then
    .transient s!"server transient problem, response code {code.text}"
  else
    .nonTransient s!"cannot get authentication challenge, response code {code.text}"

def pseudonymRefused (code : ResponseCode) : EntitlementError :=
  if code = .invalidRequest ∨ code = .serverError ∨ code = .authenticationOngoing then
    .transient s!"server transient problem, response code {code.text}"
  else
    .nonTransient s!"cannot get IMSI pseudonym, response code {code.text}"

def authenticationRefused (code : ResponseCode) : EntitlementError :=
  if code = .authenticationFailed then .nonTransient "authentication failed"
  else if code = .invalidRequest then .nonTransient "invalid request"
  else if code = .serverError then .transient "server error"
  else .nonTransient s!"unknown error, authentication response code {code.text}"

/-- What the server makes of the credentials of a request for a pseudonym. -/
inductive Verdict where
  | accepted
  | tokenRejected
  | refused (e : EntitlementError)
deriving DecidableEq

/-- The verdict behind an authentication code.  A server may ask for a new challenge only where it was
sent a token. -/
def Verdict.ofCode (code : ResponseCode) (sentToken : Bool) : Verdict :=
  if code = .success then .accepted
  else if code = .challenge then
    if sentToken then .tokenRejected
    else .refused (.transient "server asked for a new challenge without a cached token")
  else .refused (authenticationRefused code)

namespace Engine

def new (subscriber : Subscriber) (server : ServerUrl) (transportName : String) : Engine :=
  ⟨subscriber, server, transportName, none⟩

/-- Forgets the token, so that the next fetch authenticates anew. -/
def clearToken (e : Engine) : Engine :=
  { e with token := none }

/-- Keeps the token of an answer, if it has one and came of a challenge response. -/
def keepToken (e : Engine) (answer : PseudonymResponse) (response : Option String) : Engine :=
  match nonEmpty? answer.token, nonEmpty? response with
  | some token, some _ => { e with token := some token }
  | _, _ => e

abbrev Attempt (α : Type) := ExceptT EntitlementError Dialogue α

def deviceUnknown : EntitlementError := .transient "IMEISV is unavailable"

def send (e : Engine) (body : Option Json.Value) : Attempt String :=
  match body with
  | none => throw deviceUnknown
  | some body => do
    match ← ExceptT.lift (Dialogue.request ⟨e.server, body⟩) with
    | .error broken => throw (.transport broken)
    | .ok text => return text

/-- The response of the SIM to the challenge in an answer; there is none if the challenge is empty. -/
def respond (answer : ChallengeResponse) : Attempt (Option String) := do
  if answer.authCode ≠ .challenge then throw (challengeRefused answer.authCode)
  match nonEmpty? answer.challenge with
  | none => return none
  | some challenge =>
    match ← ExceptT.lift (Dialogue.query challenge) with
    | none => throw (.nonTransient "cannot get challenge response")
    | some said =>
      match said.challengeResponse? with
      | none => throw (.transient "challenge message not valid")
      | some response => return some response

def authenticate (e : Engine) : Attempt (Option String) := do
  respond (.ofBody (← e.send e.subscriber.challengeRequest?))

def requestPseudonym (e : Engine) (response : Option String) : Attempt PseudonymResponse := do
  return .ofBody (← e.send (e.subscriber.pseudonymRequest? e.token response))

def credentials (e : Engine) : Attempt (Option String) :=
  if e.token.isNone then e.authenticate else return none

/-- What an answer grants, once its credentials are accepted. -/
def granted (e : Engine) (answer : PseudonymResponse) : FetchResult :=
  if answer.pseudonymCode = .success then .ok (answer.grant? e.subscriber.imsi)
  else .error (pseudonymRefused answer.pseudonymCode)

/-- Fetches a pseudonym in at most so many attempts; all but the last end where the server rejects a
token. -/
def fetchWithin : Nat → Engine → Dialogue (FetchResult × Engine)
  | 0, e => return (.error (.transient "AKA token rejected after retry"), e)
  | attempts + 1, e => do
    match ← e.credentials.run with
    | .error failure => return (.error failure, e)
    | .ok response =>
      match ← (e.requestPseudonym response).run with
      | .error failure => return (.error failure, e)
      | .ok answer =>
        match Verdict.ofCode answer.authCode e.token.isSome with
        | .refused failure => return (.error failure, e)
        | .tokenRejected => fetchWithin attempts e.clearToken
        | .accepted => return (e.granted answer, e.keepToken answer response)

/-- One attempt, and one more after a token that the server rejects. -/
def maxAttempts : Nat := 2

def fetch (e : Engine) : Dialogue (FetchResult × Engine) :=
  fetchWithin maxAttempts e

/-- The engine in diagnostic text: of the token it is only shown whether there is one. -/
def diagnostic (e : Engine) : String :=
  Diagnostic.structured "EntitlementEngine" [
    ("imsi", e.subscriber.imsi.diagnostic),
    ("server_url", Diagnostic.optional (some (quoted e.server.url.host.text))),
    ("transport", quoted e.transportName),
    ("has_cached_token", Diagnostic.flag e.token.isSome)]

end Engine
end ImsiPseudonym
