/-!
Subjects are dot-separated tokens. In a pattern `*` stands for one token and `>` for one or more
trailing tokens; a concrete subject has neither and no empty token.
-/
namespace FleetBridge.Subject

abbrev Token := List Char

def star : Token := ['*']

def rest : Token := ['>']

def tokens (s : String) : List Token := s.toList.splitOn '.'

/-- A `>` takes the whole remainder as soon as one non-empty token stands there, so what follows
it in the pattern has no effect. -/
def matchTokens : List Token → List Token → Bool
  | [], [] => true
  | p :: ps, t :: ts =>
    if p = rest then !t.isEmpty
    else if p = star then !t.isEmpty && matchTokens ps ts
    else p = t && !t.isEmpty && matchTokens ps ts
  | _, _ => false

/-- Whether a subscription on `pattern` receives what is published on `subject`. -/
def accepts (pattern subject : String) : Bool :=
  matchTokens (tokens pattern) (tokens subject)

def isConcreteToken (t : Token) : Bool := !t.isEmpty && t != star && t != rest

/-- Whether a message may be published on `s`. -/
def isConcrete (s : String) : Bool := (tokens s).all isConcreteToken

/-- The leading token, which names the unit, unless it is empty. -/
def unit? (s : String) : Option String :=
  match tokens s with
  | [] => none
  | t :: _ => if t.isEmpty then none else some (String.ofList t)

/-- Where units announce themselves. -/
def announcements : String := "*.register_unit"

/-- Where a unit answers probes. -/
def probe (unitId : String) : String := unitId ++ ".check_status"

/-- What a channel subscribes to for one unit: every topic below the unit's prefix. -/
def telemetry (unitId topicPrefix : String) : String := unitId ++ "." ++ topicPrefix ++ ".>"

end FleetBridge.Subject
