/-
  ShuttleDesk/Text/Quoted.lean
  ============================
  A text between double quotes, as messages show a text they were given.  The
  quote and the backslash are escaped, the usual controls have short escapes, and
  any other character that does not show on its own is written by its code point
  in braces.
-/
import ShuttleDesk.Text.Visible

namespace ShuttleDesk.Text

/-- The escape of a code point by its number: backslash, `u`, hexadecimal digits in braces. -/
def codePointEscape (c : Char) : List Char :=
  ['\\', 'u', '\x7b'] ++ Nat.toDigits 16 c.toNat ++ ['\x7d']

def quotedChar (c : Char) : List Char :=
  if c = '"' then ['\\', '"']
  else if c = '\\' then ['\\', '\\']
  else if c = '\n' then ['\\', 'n']
  else if c = '\r' then ['\\', 'r']
  else if c = '\t' then ['\\', 't']
  else if c = '\x00' then ['\\', '0']
  else if Visible.isVisible c then [c]
  else codePointEscape c

def quoted (s : String) : String :=
  String.ofList (['"'] ++ s.toList.flatMap quotedChar ++ ['"'])

end ShuttleDesk.Text
