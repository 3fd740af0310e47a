import ImsiPseudonym.Base64
import ImsiPseudonym.Text.Blank
import ImsiPseudonym.Text.Utf8
import ImsiPseudonym.Json.Printer
import ImsiPseudonym.Message.Entry
import ImsiPseudonym.Identity

/-!
What the device and the SIM say about the subscriber, and the message entries that are made of it.
Empty texts count as missing.
-/
namespace ImsiPseudonym

open Text

structure Subscriber where
  imsi : Imsi
  /-- Country code of three characters, then the network code. -/
  simOperator : Option String
  imei : Option String
  softwareVersion : Option String
  deviceModel : String
deriving DecidableEq

namespace Subscriber

open Message Json

def sentImeiChars : Nat := 14

def minOperatorLength : Nat := 5

/-- The device: the first characters of its IMEI and its software version, in Base64; none if either
is missing. -/
def deviceId? (s : Subscriber) : Option String := do
  let imei ← nonEmpty? s.imei
  let version ← nonEmpty? s.softwareVersion
  let imeisv := String.ofList (imei.toList.take sentImeiChars ++ version.toList)
  return Base64.encodeText (Utf8.encode imeisv)

/-- The IMSI as a network access identifier of the operator's realm, if the operator code is ASCII
and long enough. -/
def networkIdentity? (s : Subscriber) : Option String := do
  let operator ← s.simOperator
  if operator.utf8ByteSize < minOperatorLength ∨ !operator.toList.all (·.toNat < 0x80) then none
  else
    let country := String.ofList (operator.toList.take 3)
    let network := String.ofList (operator.toList.drop 3)
    return s!"0{s.imsi.digits}@nai.epc.mnc{network}.mcc{country}.3gppnetwork.org"

/-- A member that is left out if its text is missing. -/
def member? (field : String) (text : Option String) : List (String × Value) :=
  (text.map fun t => (field, Value.string t)).toList

def authenticationEntry? (s : Subscriber) (token response : Option String) : Option Value := do
  let deviceId ← s.deviceId?
  return .ofMembers <|
    [(idField, .int authenticationId),
      (methodField, .string "3gppAuthentication"),
      ("device-id", .string deviceId),
      ("device-type", .int 0),
      ("os-type", .int 0),
      ("device-name", .string s.deviceModel)] ++
    member? "imsi-eap" s.networkIdentity? ++
    member? tokenField (nonEmpty? token) ++
    member? challengeResponseField (nonEmpty? response)

def pseudonymEntry : Value :=
  .ofMembers [(idField, .int pseudonymId), (methodField, .string "getImsiPseudonym")]

def challengeRequest? (s : Subscriber) : Option Value := do
  return .array [← s.authenticationEntry? none none]

/-- The body that asks for a pseudonym, with a token or a challenge response as credentials; none
while the device is unknown. -/
def pseudonymRequest? (s : Subscriber) (token response : Option String) : Option Value := do
  return .array [← s.authenticationEntry? token response, pseudonymEntry]

/-- The subscriber in diagnostic text: of the IMEI it is only shown whether there is one. -/
def diagnostic (s : Subscriber) : String :=
  Diagnostic.structured "SubscriberInfo" [
    ("imsi", s.imsi.diagnostic),
    ("sim_operator", Diagnostic.optional (s.simOperator.map quoted)),
    ("imei", Diagnostic.optional (s.imei.map fun _ => quoted "[REDACTED]")),
    ("software_version", Diagnostic.optional (s.softwareVersion.map quoted)),
    ("device_model", quoted s.deviceModel)]

end Subscriber
end ImsiPseudonym
