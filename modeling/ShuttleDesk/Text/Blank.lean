/-
  ShuttleDesk/Text/Blank.lean
  ===========================
  White space in the sense of the Unicode property `White_Space`: the class that
  texts are trimmed by and that a date may carry between its parts.  The class is
  a table of twenty-five code points, given here by ranges.

  Texts are treated as lists of characters.  `trim s` is the part of `s` between
  its first and its last character that is not blank.
-/
namespace ShuttleDesk.Text

/-- The character has the Unicode property `White_Space`. -/
def isBlank (c : Char) : Bool :=
  let n := c.toNat
  (0x09 ≤ n && n ≤ 0x0D) || n == 0x20 || n == 0x85 || n == 0xA0 || n == 0x1680
    || (0x2000 ≤ n && n ≤ 0x200A) || n == 0x2028 || n == 0x2029 || n == 0x202F
    || n == 0x205F || n == 0x3000

def trimStart (s : List Char) : List Char := s.dropWhile isBlank

def trimEnd (s : List Char) : List Char := (s.reverse.dropWhile isBlank).reverse

def trim (s : List Char) : List Char := trimEnd (trimStart s)

/-- `trim` on strings. -/
def trimmed (s : String) : String := String.ofList (trim s.toList)

end ShuttleDesk.Text
