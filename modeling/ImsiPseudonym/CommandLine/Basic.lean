import ImsiPseudonym.ServerUrl
import ImsiPseudonym.Identity

/-!
What a command line can say: the options that take a value, the flags that take none, and the two
subcommands.  An option is given at most once; the address of the server and the time limit may come
from the environment instead.
-/
namespace ImsiPseudonym.CommandLine

/-- The options that take a value. -/
inductive ValueOption where
  | imsi
  | carrierId
  | imei
  | softwareVersion
  | simOperator
  | deviceModel
  | akaCommand
  | serverUrl
  | timeoutSecs
  | logFormat
deriving DecidableEq, Repr

def ValueOption.name : ValueOption → String
  | .imsi => "imsi"
  | .carrierId => "carrier-id"
  | .imei => "imei"
  | .softwareVersion => "software-version"
  | .simOperator => "sim-operator"
  | .deviceModel => "device-model"
  | .akaCommand => "aka-command"
  | .serverUrl => "server-url"
  | .timeoutSecs => "timeout-secs"
  | .logFormat => "log-format"

def ValueOption.text (o : ValueOption) : String := "--" ++ o.name

/-- The flags, which take no value. -/
inductive Flag where
  | help
  | version
  | verbose
deriving DecidableEq, Repr

def Flag.name : Flag → String
  | .help => "help"
  | .version => "version"
  | .verbose => "verbose"

def Flag.letter : Flag → Char
  | .help => 'h'
  | .version => 'V'
  | .verbose => 'v'

inductive Subcommand where
  | fetch
  | watch
deriving DecidableEq, Repr

def Subcommand.name : Subcommand → String
  | .fetch => "fetch"
  | .watch => "watch"

def Subcommand.ofName? (name : String) : Option Subcommand :=
  [fetch, watch].find? fun s => s.name == name

inductive LogFormat where
  | text
  | json
deriving DecidableEq, Repr

def LogFormat.ofName? (name : String) : Option LogFormat :=
  if name = "text" then some .text else if name = "json" then some .json else none

/-- Why a command line leads to no run. -/
inductive Stop where
  | unknownArgument (token : String)
  /-- The value is missing, or empty where it may not be. -/
  | missingValue (o : ValueOption)
  | impossibleValue (o : ValueOption) (value : String)
  /-- The value is no number of the right kind. -/
  | malformedValue (o : ValueOption) (value : String)
  | givenTwice (o : ValueOption)
  | unexpectedValue (f : Flag) (value : String)
  | missingOptions (options : List ValueOption)
  | missingSubcommand
  | nothingGiven
  | helpWanted
  | versionWanted
deriving DecidableEq, Repr

namespace Stop

def kind : Stop → String
  | .unknownArgument _ => "UnknownArgument"
  | .missingValue _ => "InvalidValue"
  | .impossibleValue .. => "InvalidValue"
  | .malformedValue .. => "ValueValidation"
  | .givenTwice _ => "ArgumentConflict"
  | .unexpectedValue .. => "TooManyValues"
  | .missingOptions _ => "MissingRequiredArgument"
  | .missingSubcommand => "MissingSubcommand"
  | .nothingGiven => "DisplayHelpOnMissingArgumentOrSubcommand"
  | .helpWanted => "DisplayHelp"
  | .versionWanted => "DisplayVersion"

/-- What is wrong with the command line, in words; none if it only asks to be told something. -/
def message? : Stop → Option String
  | .unknownArgument token => some s!"unexpected argument '{token}' found"
  | .missingValue o => some s!"a value is required for '{o.text}' but none was supplied"
  | .impossibleValue o value => some s!"invalid value '{value}' for '{o.text}'"
  | .malformedValue o value => some s!"invalid value '{value}' for '{o.text}'"
  | .givenTwice o => some s!"the argument '{o.text}' cannot be used multiple times"
  | .unexpectedValue f value => some s!"unexpected value '{value}' for '--{f.name}' found"
  | .missingOptions options =>
    some ("the following required arguments were not provided: " ++
      ", ".intercalate (options.map ValueOption.text))
  | .missingSubcommand => some "a subcommand is required but one was not provided"
  | .nothingGiven => none
  | .helpWanted => none
  | .versionWanted => none

end Stop

def versionText : String := "ses 0.1.0\n"

def helpText : String :=
  "\n".intercalate [
    "SES client: IMSI pseudonym retrieval over EAP-AKA",
    "",
    "Usage: ses [OPTIONS] <COMMAND>",
    "",
    "Commands:",
    "  fetch  Retrieve one IMSI pseudonym and print it as JSON",
    "  watch  Keep the pseudonym fresh until interrupted",
    "  help   Print this message",
    "",
    "Options:",
    "  -v, --verbose...               Enable verbose output",
    "      --log-format <LOG_FORMAT>  Log line format: text or json",
    "  -h, --help                     Print help",
    "  -V, --version                  Print version",
    ""]

/-- The options as far as they are given. -/
structure Given where
  imsi : Option String
  carrier : Option CarrierId
  imei : Option String
  softwareVersion : Option String
  simOperator : Option String
  deviceModel : Option String
  akaCommand : Option String
  serverUrl : Option String
  timeoutSecs : Option Nat
  logFormat : Option LogFormat
deriving DecidableEq

namespace Given

def nothing : Given :=
  ⟨none, none, none, none, none, none, none, none, none, none⟩

/-- A value for an option that has none so far. -/
def once {α : Type} (o : ValueOption) (before : Option α) (value : Except Stop α) :
    Except Stop (Option α) :=
  if before.isSome then .error (.givenTwice o) else value.map some

def carrier? (value : String) : Option CarrierId :=
  (Decimal.readInt? value.toList).bind CarrierId.ofInt?

/-- A value that was read, if it could be. -/
def readAs {α : Type} (o : ValueOption) (value : String) : Option α → Except Stop α
  | some a => .ok a
  | none => .error (.malformedValue o value)

def put (g : Given) (o : ValueOption) (value : String) : Except Stop Given :=
  match o with
  | .imsi => return { g with imsi := ← once o g.imsi (.ok value) }
  | .carrierId =>
    return { g with carrier := ← once o g.carrier (readAs o value (carrier? value)) }
  | .imei => return { g with imei := ← once o g.imei (.ok value) }
  | .softwareVersion =>
    return { g with softwareVersion := ← once o g.softwareVersion (.ok value) }
  | .simOperator => return { g with simOperator := ← once o g.simOperator (.ok value) }
  | .deviceModel => return { g with deviceModel := ← once o g.deviceModel (.ok value) }
  | .akaCommand =>
    let named := if value = "" then .error (.missingValue o) else .ok value
    return { g with akaCommand := ← once o g.akaCommand named }
  | .serverUrl => return { g with serverUrl := ← once o g.serverUrl (.ok value) }
  | .timeoutSecs =>
    return { g with timeoutSecs := ← once o g.timeoutSecs (readAs o value (Config.seconds? value)) }
  | .logFormat =>
    let format := match LogFormat.ofName? value with
      | some format => .ok format
      | none => .error (.impossibleValue o value)
    return { g with logFormat := ← once o g.logFormat format }

end Given

structure Environment where
  serverUrl : Option String
  timeoutSecs : Option String
deriving DecidableEq, Repr

structure Arguments where
  imsi : String
  carrier : CarrierId
  imei : String
  softwareVersion : String
  simOperator : Option String
  deviceModel : String
  akaCommand : String
  serverUrl : String
  timeoutSecs : Nat
deriving DecidableEq

def defaultCarrier : CarrierId := ⟨1⟩

def defaultDeviceModel : String := "ses-cli"

namespace Given

/-- Takes from the environment what is not given. -/
def fromEnvironment (g : Given) (env : Environment) : Except Stop Given :=
  let g := { g with serverUrl := g.serverUrl <|> env.serverUrl }
  match g.timeoutSecs, env.timeoutSecs with
  | none, some value => g.put .timeoutSecs value
  | _, _ => .ok g

def missing (g : Given) : List ValueOption :=
  let lacks (o : ValueOption) (value : Option String) := if value.isNone then [o] else []
  lacks .imsi g.imsi ++ lacks .imei g.imei ++ lacks .softwareVersion g.softwareVersion ++
    lacks .akaCommand g.akaCommand ++ lacks .serverUrl g.serverUrl

/-- The arguments, if all that must be given is. -/
def complete (g : Given) (env : Environment) : Except Stop Arguments := do
  let g ← g.fromEnvironment env
  match g.imsi, g.imei, g.softwareVersion, g.akaCommand, g.serverUrl with
  | some imsi, some imei, some softwareVersion, some akaCommand, some serverUrl =>
    return {
      imsi, imei, softwareVersion, akaCommand, serverUrl
      carrier := g.carrier.getD defaultCarrier
      simOperator := g.simOperator
      deviceModel := g.deviceModel.getD defaultDeviceModel
      timeoutSecs := g.timeoutSecs.getD Config.defaultTimeoutSecs }
  | _, _, _, _, _ => throw (.missingOptions g.missing)

end Given
end ImsiPseudonym.CommandLine
