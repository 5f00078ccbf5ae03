import FleetBridge.Url.Basic
import FleetBridge.Text.Blank
import FleetBridge.Text.Case
import FleetBridge.Text.Split

/-!
Reading an absolute URL. Blanks around it and tabs and line ends in it do not count, the path is
freed of its dot segments, and characters that may not stand in a part are percent encoded.
-/
namespace FleetBridge.Url

/-- The text without what does not count. -/
def clean (s : String) : List Char :=
  (Text.stripChars (fun c => c.toNat ≤ 0x20) s.toList).filter fun c =>
    c ≠ '\t' && c ≠ '\n' && c ≠ '\r'

def isLetter (c : Char) : Bool := c.isAlpha

def isSchemeChar (c : Char) : Bool := c.isAlphanum || c = '+' || c = '-' || c = '.'

/-- The scheme in lower case, and what follows its colon. -/
def scheme? (s : List Char) : Option (String × List Char) :=
  match s.takeWhile isSchemeChar, s.dropWhile isSchemeChar with
  | c :: r, ':' :: more =>
    if isLetter c then some (Text.asciiLower (String.ofList (c :: r)), more) else none
  | _, _ => none

def encodedInFragment (c : Char) : Bool := Text.isControl c || c ∈ [' ', '"', '<', '>', '\x60']

def encodedInPath (c : Char) : Bool := encodedInFragment c || c ∈ ['#', '?', '\x7b', '\x7d']

def encodedInUser (c : Char) : Bool :=
  encodedInPath c || c ∈ ['/', ':', ';', '=', '@', '[', '\\', ']', '^', '|']

def encodedInQuery (special : Bool) (c : Char) : Bool :=
  Text.isControl c || c ∈ [' ', '"', '#', '<', '>'] || (special && c = '\'')

def encoded (p : Char → Bool) (s : List Char) : String := String.ofList (Text.percentEncode p s)

def endsAuthority (special : Bool) (c : Char) : Bool :=
  c = '/' || c = '?' || c = '#' || (special && c = '\\')

/-- The text before the last at sign of an authority, if it has one, and what follows. -/
def splitUser (special : Bool) (s : List Char) : Option (List Char) × List Char :=
  let front := s.takeWhile fun c => !endsAuthority special c
  match front.splitOn '@' with
  | [] | [_] => (none, s)
  | xs =>
    let user := ['@'].intercalate xs.dropLast
    (some user, s.drop (user.length + 1))

/-- The host's text, which ends with the authority or at a colon outside brackets, and what
follows. -/
def splitHost (special : Bool) : Bool → List Char → List Char × List Char
  | _, [] => ([], [])
  | inside, c :: r =>
    if endsAuthority special c || (c = ':' && !inside) then ([], c :: r)
    else
      let inside := if c = '[' then true else if c = ']' then false else inside
      let (h, more) := splitHost special inside r
      (c :: h, more)

/-- The port after the host, left out if it is the default, and what follows. A port ends at a slash
of either kind, whatever the scheme. -/
def splitPort? (scheme : String) : List Char → Option (Option Nat × List Char)
  | ':' :: s =>
    let digits := s.takeWhile Decimal.isDigit
    let more := s.dropWhile Decimal.isDigit
    let n := Decimal.valueOf digits
    if 65535 < n || !(more.take 1).all (endsAuthority true) then none
    else some (if digits.isEmpty || defaultPort? scheme = some n then none else some n, more)
  | s => some (none, s)

structure Authority where
  user : String
  password : String
  host : Option Host
  port : Option Nat

/-- Reads the authority at the front of a text, and gives what follows. A host may be left out, but
then also all that goes with it. -/
def authority? (scheme : String) (s : List Char) : Option (Authority × List Char) := do
  let special := isSpecial scheme
  let (user, server) := splitUser special s
  if user = some [] ∧ (server.head?.map (endsAuthority special)).getD false then none
  else
    let (name, password) := Text.cutAt (· = ':') (user.getD [])
    let name := encoded encodedInUser name
    let password := encoded encodedInUser (password.getD [])
    let (h, more) := splitHost special false server
    let (port, rest) ← splitPort? scheme more
    if h.isEmpty then
      if special || more.head? = some ':' || !name.isEmpty || !password.isEmpty then none
      else some (⟨name, password, none, port⟩, rest)
    else some (⟨name, password, some (← Host.ofText? special h), port⟩, rest)

def isSingleDot (s : List Char) : Bool :=
  Text.asciiLower (String.ofList s) ∈ [".", "%2e"]

def isDoubleDot (s : List Char) : Bool :=
  Text.asciiLower (String.ofList s) ∈ ["..", ".%2e", "%2e.", "%2e%2e"]

/-- Segments with the dot segments worked off; `done` holds the kept ones, last first. -/
def resolve : List (List Char) → List (List Char) → List (List Char)
  | done, [] => done.reverse
  | done, s :: r =>
    if isDoubleDot s then
      let done := done.drop 1
      resolve (if r.isEmpty then [] :: done else done) r
    else if isSingleDot s then resolve (if r.isEmpty then [] :: done else done) r
    else resolve (s :: done) r

/-- Cuts a path into its segments. -/
def segments (special : Bool) (s : List Char) : List (List Char) :=
  if special then (s.map fun c => if c = '\\' then '/' else c).splitOn '/' else s.splitOn '/'

/-- The normal form of a path after an authority. -/
def pathText (special : Bool) (s : List Char) : String :=
  match s with
  | [] => if special then "/" else ""
  | c :: r =>
    let body := if c = '/' || (special && c = '\\') then r else c :: r
    let kept := resolve [] ((segments special body).map (Text.percentEncode encodedInPath))
    String.ofList ('/' :: ['/'].intercalate kept)

/-- A letter and a colon, which may be written as a bar. -/
def isDrive : List Char → Bool
  | [a, b] => isLetter a && (b = ':' || b = '|')
  | _ => false

/-- The normal form of the path of a file. Dot segments do not lead out of a drive. -/
def filePath (s : List Char) : String :=
  let body := if (s.take 1).all (fun c => c = '/' || c = '\\') then s.drop 1 else s
  match segments true body with
  | drive :: r =>
    if isDrive drive then
      "/" ++ String.ofList (drive.take 1) ++ ":" ++
        (if r.isEmpty then "" else pathText true (['/'].intercalate r))
    else pathText true s
  | [] => pathText true s

/-- The parts before the query and fragment, then those two. -/
def splitTail (s : List Char) : List Char × Option (List Char) × Option (List Char) :=
  let (front, fragment) := Text.cutAt (· = '#') s
  let (path, query) := Text.cutAt (· = '?') front
  (path, query, fragment)

/-- Reads what follows the slashes of a URL that names a server. -/
def ofServer? (scheme : String) (s : List Char) : Option Url := do
  let special := isSpecial scheme
  let (a, rest) ← authority? scheme s
  let (path, query, fragment) := splitTail rest
  some ⟨scheme, a.user, a.password, a.host, a.port, pathText special path,
    query.map (encoded (encodedInQuery special)), fragment.map (encoded encodedInFragment)⟩

/-- Reads what follows the colon of a URL without a server: its path may be opaque. -/
def ofPath (scheme : String) (s : List Char) : Url :=
  let (path, query, fragment) := splitTail s
  let text := match path with
    | '/' :: _ => pathText false path
    | _ => encoded Text.isControl path
  ⟨scheme, "", "", none, none, text, query.map (encoded (encodedInQuery false)),
    fragment.map (encoded encodedInFragment)⟩

/-- The text of the host of a file, and what follows. A drive is no host. -/
def splitFileHost : List Char → List Char × List Char
  | a :: b :: r =>
    let isSlash (c : Char) : Bool := c = '/' || c = '\\'
    let host := r.takeWhile fun c => !endsAuthority true c
    if !isSlash a || !isSlash b then ([], a :: b :: r)
    else if isDrive host then ([], r)
    else (host, r.drop host.length)
  | s => ([], s)

/-- Reads what follows the colon of a file URL. This computer goes without saying. -/
def ofFile? (s : List Char) : Option Url := do
  let (hostText, rest) := splitFileHost s
  let host ← if hostText.isEmpty then some none else (Host.ofText? true hostText).map some
  let (path, query, fragment) := splitTail rest
  some ⟨"file", "", "", if host = some (.name "localhost") then none else host, none,
    filePath path, query.map (encoded (encodedInQuery true)),
    fragment.map (encoded encodedInFragment)⟩

def ofText? (s : String) : Option Url := do
  let (scheme, r) ← scheme? (clean s)
  if scheme = "file" then ofFile? r
  else if isSpecial scheme then ofServer? scheme (r.dropWhile fun c => c = '/' || c = '\\')
  else match r with
    | '/' :: '/' :: r => ofServer? scheme r
    | r => some (ofPath scheme r)

end FleetBridge.Url
