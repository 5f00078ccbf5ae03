import FleetBridge.Sample.Line
import FleetBridge.Settings.Basic
import FleetBridge.Fault
import FleetBridge.Text.Form

/-!
A sink that writes one bucket of a store over HTTP. A ping tells whether the store is there; from
then on the sink counts as connected until a request is lost or a ping is refused.
-/
namespace FleetBridge

structure HttpRequest where
  method : String
  /-- Path and query. -/
  target : String
  authorization : Option String
  contentType : Option String
  body : String
  deriving DecidableEq, Repr

/-- What comes of a request. -/
inductive HttpReply where
  /-- No answer came. -/
  | lost
  | status (code : Nat)
  deriving DecidableEq, Repr

namespace HttpReply

def isSuccess (code : Nat) : Bool := 200 ≤ code && code < 300

end HttpReply

structure RemoteSink where
  /-- Its path ends in a slash. -/
  base : Url
  organisation : String
  token : String
  bucket : String
  connected : Bool

namespace RemoteSink

/-- The URL with a slash at the end of its path. -/
def withSlash (u : Url) : Url :=
  if u.path.endsWith "/" then u else { u with path := u.path ++ "/" }

def ofSettings (s : SinkSettings) (bucket : String) : RemoteSink :=
  ⟨withSlash s.url, s.organisation, s.token, bucket, false⟩

def address (s : RemoteSink) : String := s.base.text

/-- The path of an endpoint of the store. -/
def endpoint (s : RemoteSink) (name : String) : String := s.base.path ++ name

def pingRequest (s : RemoteSink) : HttpRequest :=
  ⟨"GET", s.endpoint "ping", none, none, ""⟩

def authorization (s : RemoteSink) : Option String :=
  if s.token.isEmpty then none else some ("Token " ++ s.token)

def writeRequest (s : RemoteSink) (x : Sample) : HttpRequest :=
  let query := Text.formText [("org", s.organisation), ("bucket", s.bucket), ("precision", "ms")]
  ⟨"POST", s.endpoint "api/v2/write" ++ "?" ++ query, s.authorization,
    some "text/plain; charset=utf-8", x.line⟩

/-- An ASCII control character other than the tab cannot stand in a header; a request with one never
goes out. -/
def isHeaderChar (c : Char) : Bool := c = '\t' || (0x20 ≤ c.toNat && c.toNat ≠ 0x7f)

def canSend (r : HttpRequest) : Bool := r.authorization.all fun h => h.toList.all isHeaderChar

/-- The sink after its ping was replied to, and what the ping came to. -/
def pinged (s : RemoteSink) : HttpReply → Except SinkFault Unit × RemoteSink
  | .lost => (.error (.connect s.address ""), { s with connected := false })
  | .status code =>
    if HttpReply.isSuccess code then (.ok (), { s with connected := true })
    else (.error (.status "ping" code), { s with connected := false })

/-- The sink after its write was replied to, and what the write came to. -/
def written (s : RemoteSink) : HttpReply → Except SinkFault Unit × RemoteSink
  | .lost => (.error (.write s.bucket ""), { s with connected := false })
  | .status code =>
    if code = 200 ∨ code = 204 then (.ok (), s) else (.error (.status "write" code), s)

/-- What a call to the sink did: its result, the sink after it, and the request that went out. -/
structure Call where
  result : Except SinkFault Unit
  sink : RemoteSink
  sent : Option HttpRequest

/-- Pings the store through a network that replies to each request. -/
def connect (network : HttpRequest → HttpReply) (s : RemoteSink) : Call :=
  let (result, after) := s.pinged (network s.pingRequest)
  ⟨result, after, some s.pingRequest⟩

/-- Writes a sample; nothing goes out unless the sink is connected. -/
def write (network : HttpRequest → HttpReply) (x : Sample) (s : RemoteSink) : Call :=
  if !s.connected then ⟨.error .notConnected, s, none⟩
  else
    let r := s.writeRequest x
    let sent := if canSend r then some r else none
    let (result, after) := s.written ((sent.map network).getD .lost)
    ⟨result, after, sent⟩

end RemoteSink
end FleetBridge
