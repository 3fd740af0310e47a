import ImsiPseudonym.Failure
import ImsiPseudonym.Gzip.Member
import ImsiPseudonym.Http.Body
import ImsiPseudonym.Json.Printer
import ImsiPseudonym.Url.Basic

/-!
One exchange over HTTP.  A request posts a JSON value, compressed.  Of what comes back, only a
complete answer with status 200 brings a body; anything else breaks the exchange off.
-/
namespace ImsiPseudonym.Http

open Text

structure Request where
  target : String
  headers : List (String × String)
  body : List UInt8
deriving DecidableEq

namespace Request

def post (url : Url) (value : Json.Value) : Request where
  target := url.requestTarget
  headers := [
    ("Content-Type", "application/json"),
    ("Accept", "application/json"),
    ("Content-Encoding", "gzip"),
    ("Accept-Encoding", "gzip")]
  body := Gzip.compress (Utf8.encode value.compact)

def line (r : Request) : String :=
  "POST " ++ r.target ++ " HTTP/1.1"

def header? (r : Request) (name : String) : Option String :=
  r.headers.lookup name

def bodyText? (r : Request) : Option String :=
  (Gzip.decompress? r.body).map Utf8.decode

end Request

/-- A response that a server is to send.  Names and values of headers are sent as they are. -/
structure Response where
  status : Int
  headers : List (String × List UInt8)
  body : List UInt8
  /-- How many bytes are announced beyond those of the body. -/
  surplus : Int
deriving DecidableEq

namespace Response

def lineBytes (line : List UInt8) : List UInt8 :=
  line ++ [carriageReturn, lineFeed]

def headerBytes (name : String) (value : List UInt8) : List UInt8 :=
  lineBytes (Utf8.encode name ++ [colon, space] ++ value)

/-- The response as it is sent: the length of the body and the end of the connection are announced after
all other headers. -/
def bytes (r : Response) : List UInt8 :=
  lineBytes (Utf8.encode ("HTTP/1.1 " ++ Decimal.intText r.status)) ++
    r.headers.flatMap (fun (name, value) => headerBytes name value) ++
    headerBytes "Content-Length" (Utf8.encode (Decimal.intText (r.body.length + r.surplus))) ++
    headerBytes "Connection" (Utf8.encode "close") ++
    lineBytes [] ++ r.body

end Response

namespace Head

def statusOk : Nat := 200

/-- When the server wants to be asked again, in its own words. -/
def retryAfter (h : Head) : Option String :=
  (h.values "retry-after").head?.bind Field.text?

/-- The first encoding that the body is said to have is compression. -/
def isCompressed (h : Head) : Bool :=
  ((h.values "content-encoding").head?.map Field.value) = some (Utf8.encode "gzip")

def content? (h : Head) (body : List (List UInt8)) : Option (List UInt8) :=
  if h.isCompressed then Gzip.decompressPieces? body else some body.flatten

/-- The text of the body in the bytes behind the head, or why there is none. -/
def bodyText (h : Head) (framing : Framing) (rest : List UInt8) : Except TransportError String :=
  if h.status ≠ statusOk then .error (.httpStatus h.status h.retryAfter)
  else
    match (framing.pieces? rest).bind h.content? with
    | some bytes => .ok (Utf8.decode bytes)
    | none => .error (.malformedResponse "failed to read body: error decoding response body")

end Head

/-- What becomes of a request. -/
inductive Delivery where
  /-- Nothing is there to carry the request, and it is not made. -/
  | noRuntime
  | refused
  /-- Nothing comes within the time limit. -/
  | unanswered
  /-- These bytes come before the connection is closed. -/
  | answered (bytes : List UInt8)

def connectionError (url : Url) : TransportError :=
  .connect ("error sending request for url (" ++ url.withoutCredentials.text ++ ")")

def timeoutError (seconds : Nat) : TransportError :=
  .timeout (min (seconds * 1000) 0xFFFFFFFFFFFFFFFF)

def received (url : Url) (bytes : List UInt8) : Except TransportError String :=
  match Head.readFinal? bytes with
  | none => .error (connectionError url)
  | some (head, rest) =>
    match head.framing? with
    | none => .error (connectionError url)
    | some framing => head.bodyText framing rest

/-- The body that a delivery brings within a time limit in seconds, or why there is none.  No answer
comes within a time limit of zero. -/
def Delivery.outcome (url : Url) (timeoutSecs : Nat) : Delivery → Except TransportError String
  | .noRuntime => .error .noRuntime
  | .refused => .error (connectionError url)
  | .unanswered => .error (timeoutError timeoutSecs)
  | .answered bytes =>
    if timeoutSecs = 0 then .error (timeoutError timeoutSecs) else received url bytes

def transportName : String := "https"

end ImsiPseudonym.Http
