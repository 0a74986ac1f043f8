/-
  ShuttleDesk/Text/Utf8.lean
  ==========================
  Texts as bytes.  `encode` writes the UTF-8 form of a list of characters and
  `decode?` reads it; bytes that are not the UTF-8 form of any text have no
  reading.  `decode?_encode` says that reading undoes writing.
-/
namespace ShuttleDesk

/-- A sequence of bytes, as it stands in a body, a token or an address. -/
abbrev Bytes := List UInt8

namespace Utf8

/-- The UTF-8 form of a text. -/
def encode (s : List Char) : Bytes := s.flatMap String.utf8EncodeChar

/-- The text whose UTF-8 form these bytes are, if there is one. -/
def decode? (bs : Bytes) : Option (List Char) := bs.toByteArray.utf8Decode?.map Array.toList

/-- The UTF-8 form of a string. -/
def ofString (s : String) : Bytes := encode s.toList

/-- The string whose UTF-8 form these bytes are, if there is one. -/
def toString? (bs : Bytes) : Option String := (decode? bs).map String.ofList

theorem decode?_encode (s : List Char) : decode? (encode s) = some s := by
  have h := List.utf8Decode?_utf8Encode (l := s)
  simp only [List.utf8Encode] at h
  simp [decode?, encode, h]

theorem toString?_ofString (s : String) : toString? (ofString s) = some s := by
  simp [toString?, ofString, decode?_encode]

@[simp] theorem encode_append (s t : List Char) : encode (s ++ t) = encode s ++ encode t := by
  simp [encode]

end Utf8
end ShuttleDesk
