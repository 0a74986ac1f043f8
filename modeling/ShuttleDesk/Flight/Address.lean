/-
  ShuttleDesk/Flight/Address.lean
  ===============================
  Web addresses of the flight provider.  An address is read from a text as browsers
  read it: blanks around it are dropped, either slash separates, dot segments are
  resolved, what may not stand in a path or a query is percent-encoded, and what
  follows a `#` is dropped.  Only the web's two schemes are of use here.

  `target` is what is sent to the host: the path, and the query after a `?`.
-/
import ShuttleDesk.Calendar.Date
import ShuttleDesk.Text.Percent

namespace ShuttleDesk.Flight

/-- A web address. -/
structure Address where
  secure : Bool
  host : String
  port : Nat
  /-- The encoded segments of the path, each after a slash. -/
  path : List (List Char)
  query : Option (List Char)
  deriving DecidableEq, Repr

namespace Address

/-! ### Parts of the text -/

/-- A control or a space. -/
def isEdge (c : Char) : Bool := c.toNat ≤ 0x20

/-- The text without controls and spaces around it, and without tabs and line ends. -/
def cleaned (s : List Char) : List Char :=
  let inner := ((s.dropWhile isEdge).reverse.dropWhile isEdge).reverse
  inner.filter fun c => c ≠ '\t' && c ≠ '\n' && c ≠ '\r'

/-- Either slash. -/
def isSlash (c : Char) : Bool := c = '/' || c = '\\'

/-- The character ends the part that names the host. -/
def endsAuthority (c : Char) : Bool := isSlash c || c = '?' || c = '#'

/-- The character may stand in the name of a scheme. -/
def inScheme (c : Char) : Bool :=
  c.isAlphanum || c = '+' || c = '-' || c = '.'

/-- The scheme in lower case, and what follows its colon. -/
def scheme? (s : List Char) : Option (List Char × List Char) :=
  let name := s.takeWhile inScheme
  match s.drop name.length with
  | ':' :: rest => some (name.map Char.toLower, rest)
  | _ => none

/-- The character may not stand in the name of a host. -/
def notInHost (c : Char) : Bool :=
  c.toNat ≤ 0x20 || c.toNat = 0x7F
    || ['#', '%', '/', ':', '<', '>', '?', '@', '[', '\\', ']', '^', '|'].contains c

def host? (s : List Char) : Option String :=
  if s.isEmpty || s.any notInHost then none else some (String.ofList (s.map Char.toLower))

def greatestPort : Nat := 65535

/-- The port after its colon; without digits it is the scheme's own. -/
def port? (default : Nat) (s : List Char) : Option Nat :=
  if s.isEmpty then some default
  else
    match Numeral.readDigits greatestPort .tooLarge 0 s with
    | .ok n => some n
    | .error _ => none

/-- Host and port of the part after the slashes, in which a user may be named first. -/
def authority? (default : Nat) (s : List Char) : Option (String × Nat) := do
  let afterUser := (s.reverse.takeWhile (· ≠ '@')).reverse
  let name := afterUser.takeWhile (· ≠ ':')
  let host ← host? name
  let port ← port? default (afterUser.drop (name.length + 1))
  return (host, port)

/-! ### Path and query -/

/-- Visible characters that may not stand in a path. -/
def notInPath : List Char := ['"', '#', '<', '>', '?', Char.ofNat 0x60, '\x7b', '\x7d']

/-- Visible characters that may not stand in a query. -/
def notInQuery : List Char := ['"', '#', '<', '>', '\'']

/-- The byte is a visible character that is not excluded. -/
def isPlainBut (excluded : List Char) (b : UInt8) : Bool :=
  0x20 < b.toNat && b.toNat < 0x7F && !excluded.contains (Char.ofNat b.toNat)

def plainInPath : UInt8 → Bool := isPlainBut notInPath

def plainInQuery : UInt8 → Bool := isPlainBut notInQuery

/-- The byte stands for itself in a pair that is appended to a query. -/
def plainInPair (b : UInt8) : Bool :=
  let c := Char.ofNat b.toNat
  c.isAlphanum || c = '*' || c = '-' || c = '.' || c = '_'

/-- A dot, as it is or encoded, in front of a segment. -/
def dropDot : List Char → Option (List Char)
  | '.' :: rest => some rest
  | '%' :: '2' :: 'e' :: rest => some rest
  | '%' :: '2' :: 'E' :: rest => some rest
  | _ => none

def isSingleDot (s : List Char) : Bool := dropDot s == some []

def isDoubleDot (s : List Char) : Bool := (dropDot s).bind dropDot == some []

/-- The segments between slashes; there is at least one. -/
def segments : List Char → List (List Char)
  | [] => [[]]
  | c :: cs =>
    if isSlash c then [] :: segments cs
    else
      match segments cs with
      | [] => [[c]]
      | s :: rest => (c :: s) :: rest

/-- Resolves dot segments onto what stands before them, last segment first. -/
def resolve (before : List (List Char)) : List (List Char) → List (List Char)
  | [] => before.reverse
  | [s] =>
    if isDoubleDot s then ([] :: before.drop 1).reverse
    else if isSingleDot s then ([] :: before).reverse
    else (Percent.encode plainInPath s :: before).reverse
  | s :: t :: rest =>
    if isDoubleDot s then resolve (before.drop 1) (t :: rest)
    else if isSingleDot s then resolve before (t :: rest)
    else resolve (Percent.encode plainInPath s :: before) (t :: rest)

/-- The path that a text of slashes and segments names. -/
def pathOf (s : List Char) : List (List Char) :=
  match s with
  | [] => [[]]
  | _ :: rest => resolve [] (segments rest)

def parse? (s : List Char) : Option Address := do
  let (scheme, rest) ← scheme? (cleaned s)
  let secure ← if scheme = "http".toList then some false
    else if scheme = "https".toList then some true
    else none
  let rest := rest.dropWhile isSlash
  let authority := rest.takeWhile (!endsAuthority ·)
  let (host, port) ← authority? (if secure then 443 else 80) authority
  let rest := (rest.drop authority.length).takeWhile (· ≠ '#')
  let path := rest.takeWhile (· ≠ '?')
  let query := match rest.drop path.length with
    | [] => none
    | _ :: q => some (Percent.encode plainInQuery q)
  return { secure, host, port, path := pathOf path, query }

def withPair (a : Address) (name value : List Char) : Address :=
  let pair := Percent.encode plainInPair name ++ ['='] ++ Percent.encode plainInPair value
  let query := match a.query with
    | none | some [] => pair
    | some q => q ++ ['&'] ++ pair
  { a with query := some query }

/-- The path, a slash before each segment. -/
def pathChars (a : Address) : List Char := a.path.flatMap fun s => '/' :: s

def target (a : Address) : List Char :=
  a.pathChars ++ match a.query with
    | none => []
    | some q => '?' :: q

/-- The address that is asked about a flight on a day. -/
def forFlight? (base flightNo : List Char) (date : Calendar.Date) : Option Address := do
  let a ← parse? (base ++ "/flights/".toList ++ flightNo)
  return a.withPair "date".toList date.chars

end Address
end ShuttleDesk.Flight
