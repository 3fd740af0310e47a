import ImsiPseudonym.Url.Host

/-!
URLs with a host, as the parts they are written with: every part is in its one normal form, so that
equal URLs have equal texts.
-/
namespace ImsiPseudonym

structure Url where
  scheme : String
  username : String
  password : String
  host : Url.Host
  port : Option Nat
  /-- The parts between the slashes of the path. -/
  segments : List String
  query : Option String
  fragment : Option String
deriving DecidableEq, Repr

namespace Url

def path (u : Url) : String :=
  String.join (u.segments.map fun segment => "/" ++ segment)

def credentials (u : Url) : String :=
  if u.username = "" ∧ u.password = "" then ""
  else u.username ++ (if u.password = "" then "" else ":" ++ u.password) ++ "@"

/-- The port where it is not the one of the scheme. -/
def portText (u : Url) : String :=
  match u.port with
  | none => ""
  | some port => ":" ++ Decimal.natText port

/-- A part behind its mark, if there is one. -/
def marked (mark : String) : Option String → String
  | none => ""
  | some part => mark ++ part

/-- The path and the query, as a request names what it is for. -/
def requestTarget (u : Url) : String :=
  u.path ++ marked "?" u.query

def text (u : Url) : String :=
  u.scheme ++ "://" ++ u.credentials ++ u.host.text ++ u.portText ++ u.requestTarget ++
    marked "#" u.fragment

def withoutCredentials (u : Url) : Url :=
  { u with username := "", password := "" }

/-- Scheme, host and path alone. -/
def brief (u : Url) : String :=
  u.scheme ++ "://" ++ u.host.text ++ u.path

end Url
end ImsiPseudonym
