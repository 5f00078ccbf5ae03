import FleetBridge.Fault
import FleetBridge.Text.Case
import FleetBridge.Text.Split
import FleetBridge.Url.Reader

/-!
Where the event database is: any absolute URL names it, unless a parameter that the connection
heeds is out of order.
-/
namespace FleetBridge.Database

/-- The parameters of a query, decoded. -/
def parameters (query : String) : List (String × String) :=
  let decode (s : List Char) : String :=
    let spaced := String.ofList (s.map fun c => if c = '+' then ' ' else c)
    (String.fromUTF8? (Text.percentDecode spaced)).getD ""
  (query.toList.splitOn '&').filterMap fun p =>
    if p.isEmpty then none
    else
      let (k, v) := Text.cutAt (· = '=') p
      some (decode k, decode (v.getD []))

def sslModes : List String :=
  ["disable", "allow", "prefer", "require", "verify-ca", "verify-full"]

def isIpAddress (s : String) : Bool := (Net.whole? Net.ipv4 s <|> Net.whole? Net.ipv6 s).isSome

/-- Whether a connection can be made up with this parameter. -/
def heeds (parameter : String × String) : Bool :=
  match parameter.1 with
  | "sslmode" => Text.asciiLower parameter.2 ∈ sslModes
  | "ssl-mode" => Text.asciiLower parameter.2 ∈ sslModes
  | "port" => (Decimal.readNat? 65535 parameter.2).isSome
  | "hostaddr" => isIpAddress parameter.2
  | "statement-cache-capacity" => (Decimal.readNat? Word.maxUInt64 parameter.2).isSome
  | _ => true

/-- Whether the bytes that a part of a URL encodes are text. -/
def isText (part : String) : Bool := (String.fromUTF8? (Text.percentDecode part)).isSome

/-- Whether a host can be reached: one that starts with an encoded slash is the path of a socket and
must be text. -/
def canReach (host : String) : Bool :=
  (Text.percentDecode host).toList.head? != some 0x2f || isText host

def accepts (url : String) : Bool :=
  match Url.ofText? url with
  | none => false
  | some u =>
    canReach u.hostText && isText u.user && isText u.password && isText u.path &&
      (parameters (u.query.getD "")).all heeds

/-- Checks a URL; nothing is connected before the first query. -/
def locate (url : String) : Except DatabaseFault Unit :=
  if accepts url then .ok () else .error (.connect "")

end FleetBridge.Database
