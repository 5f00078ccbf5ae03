import FleetBridge.Url.Host

/-!
Absolute URLs in normal form, and their text.
-/
namespace FleetBridge

structure Url where
  scheme : String
  user : String
  password : String
  host : Option Url.Host
  /-- Absent if it is the scheme's default. -/
  port : Option Nat
  path : String
  query : Option String
  fragment : Option String
  deriving DecidableEq, Repr

namespace Url

/-- The default port of the schemes that name a server. -/
def defaultPort? (scheme : String) : Option Nat :=
  match scheme with
  | "http" => some 80
  | "https" => some 443
  | "ws" => some 80
  | "wss" => some 443
  | "ftp" => some 21
  | _ => none

/-- Schemes whose URLs always name a host and separate segments by backslashes too. -/
def isSpecial (scheme : String) : Bool := (defaultPort? scheme).isSome || scheme = "file"

def credentials (u : Url) : String :=
  if u.user.isEmpty && u.password.isEmpty then ""
  else u.user ++ (if u.password.isEmpty then "" else ":" ++ u.password) ++ "@"

/-- The host's text; empty if there is no host. -/
def hostText (u : Url) : String := (u.host.map Host.text).getD ""

def portText (u : Url) : String := (u.port.map fun p => ":" ++ toString p).getD ""

def authority (u : Url) : String := u.credentials ++ u.hostText ++ u.portText

/-- A text with a character before it, if there is a text. -/
def after (lead : String) (s : Option String) : String := (s.map (lead ++ ·)).getD ""

def text (u : Url) : String :=
  let front := if u.host.isSome then "//" ++ u.authority else ""
  u.scheme ++ ":" ++ front ++ u.path ++ after "?" u.query ++ after "#" u.fragment

end Url
end FleetBridge
