import ImsiPseudonym.Url.Reader
import ImsiPseudonym.Text.Diagnostic

/-!
The address of the entitlement server, which is always reached over HTTPS, and the settings of a
client: that address and a time limit.
-/
namespace ImsiPseudonym

open Text

/-- The URL of a server that is reached over HTTPS. -/
structure ServerUrl where
  url : Url
  secure : url.scheme = "https"
deriving DecidableEq

inductive ConfigError where
  | missingServerUrl
  | invalidUrl (raw : String) (e : Url.UrlError)
  | insecureScheme (scheme : String)
deriving DecidableEq, Repr

namespace ConfigError

def message : ConfigError → String
  | .missingServerUrl => "SES_SERVER_URL environment variable is required"
  | .invalidUrl raw e => s!"invalid server URL {raw}: {e.message}"
  | .insecureScheme scheme => "the server URL must use HTTPS, got scheme " ++ quoted scheme

def kind : ConfigError → String
  | .missingServerUrl => "MissingServerUrl"
  | .invalidUrl .. => "InvalidUrl"
  | .insecureScheme _ => "InsecureScheme"

end ConfigError

/-- Reads the address of a server. -/
def ServerUrl.ofString (raw : String) : Except ConfigError ServerUrl :=
  match Url.Address.ofString raw with
  | .error e => .error (.invalidUrl raw e)
  | .ok (.web u) =>
    if hsecure : u.scheme = "https" then .ok ⟨u, hsecure⟩ else .error (.insecureScheme u.scheme)
  | .ok (.foreign scheme) => .error (.insecureScheme scheme)

structure Config where
  server : ServerUrl
  timeoutSecs : Nat
deriving DecidableEq

namespace Config

/-- The time limit of one exchange unless another is set, in seconds. -/
def defaultTimeoutSecs : Nat := 30

def ofServer (raw : String) : Except ConfigError Config :=
  (ServerUrl.ofString raw).map fun server => ⟨server, defaultTimeoutSecs⟩

/-- A number of seconds of 64 bits. -/
def seconds? (s : String) : Option Nat :=
  (Decimal.readUnsigned? s.toList).filter (· ≤ 0xFFFFFFFFFFFFFFFF)

/-- Settings from the environment; a time limit that is no number is passed over. -/
def ofEnvironment (server timeout : Option String) : Except ConfigError Config :=
  match server with
  | none => .error .missingServerUrl
  | some raw =>
    (ServerUrl.ofString raw).map fun server =>
      ⟨server, (timeout.bind seconds?).getD defaultTimeoutSecs⟩

/-- The settings in diagnostic text, without credentials and query. -/
def diagnostic (c : Config) : String :=
  Diagnostic.structured "EntitlementConfig" [
    ("server_url", quoted c.server.url.brief),
    ("timeout_secs", Decimal.natText c.timeoutSecs)]

end Config
end ImsiPseudonym
