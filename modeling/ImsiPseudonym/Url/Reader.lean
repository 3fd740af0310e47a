import ImsiPseudonym.Url.Basic

/-!
Reading URLs as browsers do: blanks around them and line breaks inside them are passed over, a
backslash is a slash, and what is not in normal form is brought into it.  Of URLs whose scheme is not
one of the web only the scheme is kept, once the rest is found to be well formed.
-/
namespace ImsiPseudonym.Url

/-- A text read as a URL: one with a host on the web, or one of another scheme. -/
inductive Address where
  | web (u : Url)
  | foreign (scheme : String)

def Address.scheme : Address → String
  | .web u => u.scheme
  | .foreign scheme => scheme

def webPort? (scheme : String) : Option Nat :=
  if scheme = "https" ∨ scheme = "wss" then some 443
  else if scheme = "http" ∨ scheme = "ws" then some 80
  else if scheme = "ftp" then some 21
  else none

/-- The text without the controls and spaces around it and the tabs and line breaks in it. -/
def cleaned (cs : List Char) : List Char :=
  let outer (c : Char) : Bool := c.toNat ≤ 0x20
  let inner := ((cs.dropWhile outer).reverse.dropWhile outer).reverse
  inner.filter fun c => c != '\t' && c != '\n' && c != '\r'

def readScheme? (cs : List Char) : Option (String × List Char) :=
  let isSchemeChar (c : Char) : Bool := c.isAlphanum || c == '+' || c == '-' || c == '.'
  let (name, rest) := cs.span isSchemeChar
  match name.head?, rest with
  | some first, ':' :: rest =>
    if first.isAlpha then some (String.ofList (name.map Char.toLower), rest) else none
  | _, _ => none

/-- The character ends the part of a URL that names the host. -/
def endsAuthority (web : Bool) (c : Char) : Bool :=
  c == '/' || c == '?' || c == '#' || (web && c == '\\')

def splitLast? (mark : Char) (cs : List Char) : Option (List Char × List Char) :=
  let after := (cs.reverse.takeWhile (· ≠ mark)).reverse
  if after.length = cs.length then none
  else some (cs.take (cs.length - after.length - 1), after)

/-- The credentials before the last at sign, in percent encoding, and the text after it. -/
def readCredentials (authority : List Char) : (String × String) × List Char :=
  match splitLast? '@' authority with
  | none => (("", ""), authority)
  | some (credentials, rest) =>
    let (name, tail) := credentials.span (· ≠ ':')
    let encoded (cs : List Char) := String.ofList (percentEncode .userinfo cs)
    ((encoded name, encoded (tail.drop 1)), rest)

/-- The host and the text behind a colon outside of square brackets. -/
def splitPort : (bracketed : Bool) → List Char → List Char × Option (List Char)
  | _, [] => ([], none)
  | bracketed, c :: cs =>
    if c = ':' ∧ !bracketed then ([], some cs)
    else
      let (host, port) := splitPort (if c = '[' then true else if c = ']' then false else bracketed) cs
      (c :: host, port)

/-- The number of a port, if there is one, which is at most 65535. -/
def readPort (cs : List Char) : Except UrlError (Option Nat) :=
  if cs = [] then .ok none
  else
    match Decimal.readNat? cs with
    | some port => if port ≤ 65535 then .ok (some port) else .error .badPort
    | none => .error .badPort

def isDot (segment : List Char) : Bool :=
  ["." , "%2e"].contains (String.ofList (segment.map Char.toLower))

/-- A segment that stands for the place above. -/
def isDoubleDot (segment : List Char) : Bool :=
  ["..", ".%2e", "%2e.", "%2e%2e"].contains (String.ofList (segment.map Char.toLower))

def isDrive (segment : List Char) : Bool :=
  match segment with
  | [letter, mark] => letter.isAlpha && (mark == ':' || mark == '|')
  | _ => false

/-- The step up from a path, whose last segment comes first. -/
def above : List (List Char) → List (List Char)
  | [] => []
  | segment :: segments => if isDrive segment then segment :: segments else segments

/-- The segments of a path with the dots worked off; `done` are those before it, the last one
first. -/
def resolveDots (done : List (List Char)) : List (List Char) → List (List Char)
  | [] => done.reverse
  | [segment] =>
    if isDoubleDot segment then ([] :: above done).reverse
    else if isDot segment then ([] :: done).reverse
    else (percentEncode .path segment :: done).reverse
  | segment :: segments =>
    if isDoubleDot segment then resolveDots (above done) segments
    else if isDot segment then resolveDots done segments
    else resolveDots (percentEncode .path segment :: done) segments

def readPath (cs : List Char) : List String :=
  let slashed := cs.map fun c => if c = '\\' then '/' else c
  (resolveDots [] (Text.pieces '/' (slashed.drop 1))).map String.ofList

def readFragment : List Char → Option String
  | [] => none
  | _ :: cs => some (String.ofList (percentEncode .fragment cs))

/-- The query behind the question mark, and the fragment. -/
def readQuery : List Char → Option String × Option String
  | '?' :: cs =>
    let (query, rest) := cs.span (· ≠ '#')
    (some (String.ofList (percentEncode .query query)), readFragment rest)
  | cs => (none, readFragment cs)

/-- The credentials are empty and nothing follows their at sign where a host should stand. -/
def lacksHost (authority rest : List Char) : Bool :=
  authority == ['@'] && !rest.isEmpty

def readWeb (scheme : String) (cs : List Char) : Except UrlError Url := do
  let (authority, rest) := cs.span fun c => !endsAuthority true c
  let ((username, password), hostAndPort) := readCredentials authority
  let (hostChars, portChars) := splitPort false hostAndPort
  if hostChars = [] then throw .emptyHost
  let host ← Host.ofChars hostChars
  let port ← readPort (portChars.getD [])
  let (pathChars, rest) := rest.span fun c => c != '?' && c != '#'
  let (query, fragment) := readQuery rest
  return {
    scheme, username, password, host
    port := if port = webPort? scheme then none else port
    segments := readPath pathChars
    query, fragment }

def checkForeign (cs : List Char) : Except UrlError Unit := do
  let (authority, rest) := cs.span fun c => !endsAuthority false c
  if lacksHost authority rest then throw .emptyHost
  let ((username, password), hostAndPort) := readCredentials authority
  let (hostChars, portChars) := splitPort false hostAndPort
  checkForeignHost hostChars
  if hostChars = [] ∧ (portChars.isSome ∨ username ≠ "" ∨ password ≠ "") then throw .emptyHost
  let _ ← readPort ((portChars.getD []).takeWhile (· ≠ '\\'))

def checkFile (cs : List Char) : Except UrlError Unit :=
  match cs.map fun c => if c = '\\' then '/' else c with
  | '/' :: '/' :: _ =>
    let host := (cs.drop 2).takeWhile fun c => !endsAuthority true c
    if host = [] ∨ isDrive host then .ok () else (Host.ofChars host).map fun _ => ()
  | _ => .ok ()

def Address.ofString (s : String) : Except UrlError Address :=
  match readScheme? (cleaned s.toList) with
  | none => .error .noScheme
  | some (scheme, rest) =>
    if (webPort? scheme).isSome then
      (readWeb scheme (rest.dropWhile fun c => c == '/' || c == '\\')).map .web
    else
      let checked := if scheme = "file" then checkFile rest
        else match rest with
          | '/' :: '/' :: rest => checkForeign rest
          | _ => .ok ()
      checked.map fun _ => .foreign scheme

end ImsiPseudonym.Url
