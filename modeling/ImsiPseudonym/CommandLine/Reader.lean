import ImsiPseudonym.CommandLine.Basic

/-!
Reading command lines, token by token.  An option's value follows in the next token or behind an
equals sign; a token that starts with a dash is never the value of the option before it.  A value is
looked at when the next option or flag of the grammar comes, or at the end.
-/
namespace ImsiPseudonym
namespace CommandLine

/-- What may stand on a command line. -/
structure Grammar where
  options : List ValueOption
  flags : List Flag
  subcommands : List String

namespace Grammar

/-- The arguments of a subcommand by themselves. -/
def arguments : Grammar where
  options := [.imsi, .carrierId, .imei, .softwareVersion, .simOperator, .deviceModel, .akaCommand,
    .serverUrl, .timeoutSecs]
  flags := [.help]
  subcommands := []

/-- What follows the name of a subcommand. -/
def subcommand : Grammar where
  options := arguments.options ++ [.logFormat]
  flags := [.help, .verbose]
  subcommands := []

def helpName : String := "help"

/-- The whole command line, up to the name of a subcommand. -/
def program : Grammar where
  options := [.logFormat]
  flags := [.help, .version, .verbose]
  subcommands := [Subcommand.fetch.name, Subcommand.watch.name, helpName]

def option? (g : Grammar) (name : String) : Option ValueOption :=
  g.options.find? fun o => o.name == name

def flag? (g : Grammar) (name : String) : Option Flag :=
  g.flags.find? fun f => f.name == name

def letter? (g : Grammar) (letter : Char) : Option Flag :=
  g.flags.find? fun f => f.letter == letter

end Grammar

structure Reading where
  given : Given
  /-- The last option, with its value once that has come. -/
  pending : Option (ValueOption × Option String)
  verbosity : Nat

namespace Reading

def start : Reading := ⟨.nothing, none, 0⟩

/-- The next token is the value of an option, unless it starts with a dash. -/
def awaitsValue (r : Reading) : Bool :=
  match r.pending with
  | some (_, none) => true
  | _ => false

def isEmpty (r : Reading) : Bool :=
  r.given = .nothing && r.verbosity = 0

/-- Notes the last option with its value. -/
def settle (r : Reading) : Except Stop Reading :=
  match r.pending with
  | none => .ok r
  | some (o, none) => .error (.missingValue o)
  | some (o, some value) =>
    (r.given.put o value).map fun given => { r with given, pending := none }

/-- Notes an option, whose value is to follow unless it came along. -/
def takeOption (r : Reading) (o : ValueOption) (attached : Option String) : Except Stop Reading := do
  let r ← r.settle
  match attached with
  | none => return { r with pending := some (o, none) }
  | some value => return { r with given := ← r.given.put o value }

def takeFlag (r : Reading) (f : Flag) : Except Stop Reading := do
  let r ← r.settle
  match f with
  | .help => throw .helpWanted
  | .version => throw .versionWanted
  | .verbose => return { r with verbosity := r.verbosity + 1 }

/-- Notes a token that starts with no dash. -/
def takeValue (r : Reading) (value : String) : Except Stop Reading :=
  match r.pending with
  | some (o, none) => .ok { r with pending := some (o, some value) }
  | _ => .error (.unknownArgument value)

/-- Notes a token of two dashes, a name, and perhaps a value behind an equals sign. -/
def takeLong (g : Grammar) (r : Reading) (token : List Char) : Except Stop Reading :=
  let (name, rest) := token.span (· ≠ '=')
  let name := String.ofList name
  let attached := match rest with
    | [] => none
    | _ :: value => some (String.ofList value)
  match g.option? name, g.flag? name, attached with
  | some o, _, _ => r.takeOption o attached
  | none, some f, none => r.takeFlag f
  | none, some f, some value => .error (.unexpectedValue f value)
  | none, none, _ => .error (.unknownArgument ("--" ++ name))

/-- Notes the letters behind one dash, each of which is a flag. -/
def takeLetters (g : Grammar) (r : Reading) : List Char → Except Stop Reading
  | [] => .ok r
  | letter :: letters =>
    match g.letter? letter with
    | none => .error (.unknownArgument (String.ofList ['-', letter]))
    | some f => do takeLetters g (← r.takeFlag f) letters

/-- Notes one token.  A single dash is a value. -/
def takeToken (g : Grammar) (r : Reading) (token : String) : Except Stop Reading :=
  match token.toList with
  | '-' :: '-' :: name => r.takeLong g name
  | '-' :: letter :: letters => r.takeLetters g (letter :: letters)
  | _ => r.takeValue token

end Reading

/-- Reads tokens up to the end or the name of a subcommand, and gives the tokens from that on.  After
two dashes by themselves nothing may follow. -/
def readTokens (g : Grammar) : Reading → List String → Except Stop (Reading × List String)
  | r, [] => .ok (r, [])
  | r, token :: tokens =>
    if !r.awaitsValue && g.subcommands.contains token then .ok (r, token :: tokens)
    else if token = "--" then
      match tokens with
      | [] => .ok (r, [])
      | extra :: _ => .error (.unknownArgument extra)
    else do readTokens g (← r.takeToken g token) tokens

def Arguments.ofTokens (env : Environment) (tokens : List String) : Except Stop Arguments := do
  let (r, _) ← readTokens .arguments .start tokens
  (← r.settle).given.complete env

/-- What help was asked for, if it is about something that there is. -/
def helpAbout : List String → Stop
  | [] => .helpWanted
  | [name] => if Grammar.program.subcommands.contains name then .helpWanted else .unknownArgument name
  | name :: extra :: _ =>
    .unknownArgument (if Grammar.program.subcommands.contains name then extra else name)

end CommandLine

structure CommandLine where
  verbosity : Nat
  logFormat : CommandLine.LogFormat
  subcommand : CommandLine.Subcommand
  arguments : CommandLine.Arguments

namespace CommandLine

/-- Reads a whole command line.  What stands before the subcommand holds where nothing else is said
after it. -/
def ofTokens (env : Environment) (tokens : List String) : Except Stop CommandLine := do
  let (top, rest) ← readTokens .program .start tokens
  match rest with
  | [] =>
    let top ← top.settle
    throw (if top.isEmpty then .nothingGiven else .missingSubcommand)
  | name :: rest =>
    match Subcommand.ofName? name with
    | none => throw (helpAbout rest)
    | some subcommand =>
      let (inner, _) ← readTokens .subcommand .start rest
      let inner ← inner.settle
      let arguments ← inner.given.complete env
      let top ← top.settle
      let format := inner.given.logFormat <|> top.given.logFormat
      return {
        verbosity := if inner.verbosity = 0 then top.verbosity else inner.verbosity
        logFormat := format.getD .text
        subcommand, arguments }

end CommandLine
end ImsiPseudonym
