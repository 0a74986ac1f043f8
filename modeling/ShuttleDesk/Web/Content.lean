/-
  ShuttleDesk/Web/Content.lean
  ============================
  What a request carries: an id in its path, and a value in its body.  The content
  type must say that the body is such a value; if the body cannot be read, the
  answer tells faults of form from faults of meaning.
-/
import ShuttleDesk.Desk.Error
import ShuttleDesk.Json.Record
import ShuttleDesk.Text.Percent
import ShuttleDesk.Web.Message

namespace ShuttleDesk.Web

/-! ### Content types -/

/-- The character may stand in a part of a content type. -/
def isTokenChar (c : Char) : Bool :=
  c.isAlphanum
    || ['!', '#', '$', '%', '&', '\'', '*', '+', '-', '.', '^', '_', Char.ofNat 0x60, '|',
        '~'].contains c

/-- The character may stand between quotes in a content type. -/
def isQuotable (c : Char) : Bool :=
  c.toNat < 0x80 && (c = '\t' || (0x20 ≤ c.toNat && c.toNat ≠ 0x7F)) && c ≠ '"'

/-- What is read of the parameters of a content type. -/
inductive ParameterPart where
  | start
  | name
  | value
  | bareValue
  | quotedStart
  | quotedValue
  | afterQuote

/-- The parameters of a content type have the right form. -/
def areParameters : ParameterPart → List Char → Bool
  | .start, [] => true
  | .name, [] => false
  | .value, [] => true
  | .bareValue, [] => true
  | .quotedStart, [] => false
  | .quotedValue, [] => false
  | .afterQuote, [] => true
  | .start, c :: cs =>
    if c = ' ' then areParameters .start cs else isTokenChar c && areParameters .name cs
  | .name, c :: cs =>
    if c = '=' then areParameters .value cs else isTokenChar c && areParameters .name cs
  | .value, c :: cs =>
    if c = '"' then areParameters .quotedStart cs
    else isTokenChar c && areParameters .bareValue cs
  | .bareValue, c :: cs =>
    if c = ';' then areParameters .start cs
    else isTokenChar c && areParameters .bareValue cs
  | .quotedStart, c :: cs => isQuotable c && areParameters .quotedValue cs
  | .quotedValue, c :: cs =>
    if c = '"' then areParameters .afterQuote cs
    else isQuotable c && areParameters .quotedValue cs
  | .afterQuote, c :: cs =>
    if c = ';' then areParameters .start cs
    else c = ' ' && areParameters .afterQuote cs

/-- The parts of a subtype before and after its last plus sign. -/
def splitPlus (s : List Char) : List Char × Option (List Char) :=
  let after := (s.reverse.takeWhile (· ≠ '+')).reverse
  let before := s.take (s.length - after.length - 1)
  if after.length < s.length ∧ !before.isEmpty then (before, some after) else (s, none)

/-- The content type names a value of the wanted kind. -/
def isJsonType (s : String) : Bool :=
  let chars := s.toList.map Char.toLower
  let kind := chars.takeWhile isTokenChar
  match chars.drop kind.length with
  | '/' :: rest =>
    let sub := rest.takeWhile isTokenChar
    let wellFormed := match rest.drop sub.length with
      | [] => true
      | ';' :: parameters => areParameters .start parameters
      | _ => false
    let (name, suffix) := splitPlus sub
    kind = "application".toList && wellFormed && !sub.isEmpty
      && (name = "json".toList || suffix = some "json".toList)
  | _ => false

/-! ### Bodies -/

def readBody {α : Type} (read : Bytes → Except Json.Misread α) (r : Request) :
    Except DeskError α :=
  if ((r.text? "content-type").map isJsonType).getD false then
    match read r.body with
    | .ok a => .ok a
    | .error m =>
      let what := if m.fault.isOfMeaning then
          "Failed to deserialize the JSON body into the target type: "
        else "Failed to parse the request body as JSON: "
      .error (.invalidInput (what ++ m.message))
  else
    .error (.invalidInput
      ("Expected request with " ++ Json.ticked "Content-Type: application/json"))

/-! ### Ids in paths -/

/-- Reads the id of a path; otherwise there is a text to answer with. -/
def readId (segment : List Char) : Except String Int :=
  match Utf8.toString? (Percent.decode (Utf8.encode segment)) with
  | none => .error ("Invalid URL: Invalid UTF-8 in " ++ Json.ticked "id")
  | some s =>
    match Numeral.parse .signed64 s.toList with
    | .ok n => .ok n
    | .error _ =>
      .error ("Invalid URL: Cannot parse " ++ Json.ticked s ++ " to a " ++ Json.ticked "i64")

end ShuttleDesk.Web
