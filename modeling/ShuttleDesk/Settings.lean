/-
  ShuttleDesk/Settings.lean
  =========================
  The settings of the desk, read from named texts.  Each has a default but the
  secret.  Numbers must fit their word; the settings are read in order and the
  first that cannot be used is reported.
-/
import ShuttleDesk.Numeral
import ShuttleDesk.Text.Blank

namespace ShuttleDesk

/-- The settings of the desk. -/
structure Settings where
  host : String
  port : Int
  corsOrigins : List String
  requestTimeoutSecs : Int
  dbMaxConnections : Int
  lockTimeoutMs : Int
  flightApiUrl : Option String
  flightSyncIntervalSecs : Int
  tokenSecret : String
  tokenMinutes : Int
  deriving DecidableEq, Repr

namespace Settings

/-- Why a setting cannot be used. -/
inductive Unusable where
  | notANumber (name word : String) (flaw : Numeral.Flaw)
  | missing (name : String)
  | empty (name : String)
  deriving DecidableEq, Repr

def flawName : Numeral.Flaw → String
  | .empty => "Empty"
  | .invalidDigit => "InvalidDigit"
  | .tooLarge => "PosOverflow"
  | .tooSmall => "NegOverflow"

def Unusable.message : Unusable → String
  | .notANumber name word flaw =>
    name ++ " must be a valid " ++ word ++ ": ParseIntError \x7b kind: " ++ flawName flaw ++ " \x7d"
  | .missing name => name ++ " must be set in the environment: NotPresent"
  | .empty name => name ++ " must not be empty"

/-- A number that fits a word, with a default. -/
def number (env : String → Option String) (name word : String) (bounds : Numeral.Bounds)
    (default : Int) : Except Unusable Int :=
  match env name with
  | none => .ok default
  | some s =>
    match Numeral.parse bounds s.toList with
    | .ok n => .ok n
    | .error flaw => .error (.notANumber name word flaw)

def splitAt (sep : Char) : List Char → List (List Char)
  | [] => [[]]
  | c :: cs =>
    if c = sep then [] :: splitAt sep cs
    else
      match splitAt sep cs with
      | [] => [[c]]
      | part :: parts => (c :: part) :: parts

/-- Texts between commas, trimmed, without the empty ones. -/
def texts (s : String) : List String :=
  ((splitAt ',' s.toList).map fun part => String.ofList (Text.trim part)).filter (· ≠ "")

/-- A trimmed text, if it is there and not empty. -/
def text? (s : Option String) : Option String := (s.map Text.trimmed).filter (· ≠ "")

def secret (env : String → Option String) : Except Unusable String :=
  match env "JWT_SECRET" with
  | none => .error (.missing "JWT_SECRET")
  | some s => if s.isEmpty then .error (.empty "JWT_SECRET") else .ok s

/-- The origin that is allowed by default. -/
def defaultOrigin : String := "http://localhost:5173"

def load (env : String → Option String) : Except Unusable Settings := do
  let port ← number env "PORT" "u16" .unsigned16 3000
  let requestTimeoutSecs ← number env "REQUEST_TIMEOUT_SECS" "u64" .unsigned64 30
  let dbMaxConnections ← number env "DB_MAX_CONNECTIONS" "u32" .unsigned32 20
  let lockTimeoutMs ← number env "LOCK_TIMEOUT_MS" "u64" .unsigned64 5000
  let flightSyncIntervalSecs ← number env "FLIGHT_SYNC_INTERVAL_SECS" "u64" .unsigned64 1800
  let tokenSecret ← secret env
  let tokenMinutes ← number env "JWT_ACCESS_EXPIRY_MINS" "i64" .signed64 15
  return {
    host := (env "HOST").getD "0.0.0.0"
    port
    corsOrigins := texts ((env "CORS_ORIGINS").getD defaultOrigin)
    requestTimeoutSecs
    dbMaxConnections
    lockTimeoutMs
    flightApiUrl := text? (env "FLIGHT_API_URL")
    flightSyncIntervalSecs
    tokenSecret
    tokenMinutes }

end Settings
end ShuttleDesk
