/-
  ShuttleDesk/Proofs/Text/ByteOrder.lean
  ======================================
  The store puts texts in the order of their bytes, and texts here are compared
  character by character.  The two orders are the same: a character with a greater
  number has either more bytes, and then a greater first byte, or as many, which are the
  digits of the number to the base 64.
-/
import Mathlib.Tactic.ByContra
import Mathlib.Tactic.SplitIfs
import ShuttleDesk.Text.Utf8

namespace ShuttleDesk.Utf8

/-- Bytes are compared by the first that differs. -/
theorem ofNat_cons_lt_iff {a b : Nat} {s t : Bytes} (ha : a < 256) (hb : b < 256) :
    UInt8.ofNat a :: s < UInt8.ofNat b :: t ↔ a < b ∨ a = b ∧ s < t := by
  have hlt : UInt8.ofNat a < UInt8.ofNat b ↔ a < b := by
    rw [UInt8.lt_iff_toNat_lt, UInt8.toNat_ofNat', UInt8.toNat_ofNat']
    omega
  have heq : UInt8.ofNat a = UInt8.ofNat b ↔ a = b := by
    rw [← UInt8.toNat_inj, UInt8.toNat_ofNat', UInt8.toNat_ofNat']
    omega
  rw [List.cons_lt_cons_iff, hlt, heq]

/-- Numbers are compared by the first digit to the base 64 that differs. -/
theorem digits_lt {m n : Nat} (h : m < n) :
    m / 262144 < n / 262144 ∨ m / 262144 = n / 262144 ∧
      (m / 4096 % 64 < n / 4096 % 64 ∨ m / 4096 % 64 = n / 4096 % 64 ∧
        (m / 64 % 64 < n / 64 % 64 ∨ m / 64 % 64 = n / 64 % 64 ∧ m % 64 < n % 64)) := by
  have hdigit {k l : Nat} (h : k < l) : k / 64 < l / 64 ∨ k / 64 = l / 64 ∧ k % 64 < l % 64 := by
    omega
  have hdiv (k : Nat) : k / 64 / 64 = k / 4096 ∧ k / 4096 / 64 = k / 262144 := by omega
  rcases hdigit h with h | ⟨heq, h⟩
  · rcases hdigit h with h | ⟨heq, h⟩
    · rw [(hdiv m).1, (hdiv n).1] at h
      rcases hdigit h with h | ⟨heq, h⟩
      · rw [(hdiv m).2, (hdiv n).2] at h
        exact .inl h
      · rw [(hdiv m).2, (hdiv n).2] at heq
        exact .inr ⟨heq, .inl h⟩
    · rw [(hdiv m).1, (hdiv n).1] at heq
      rw [← (hdiv m).2, ← (hdiv n).2, heq]
      exact .inr ⟨rfl, .inr ⟨rfl, .inl h⟩⟩
  · rw [← (hdiv m).2, ← (hdiv n).2, ← (hdiv m).1, ← (hdiv n).1, heq]
    exact .inr ⟨rfl, .inr ⟨rfl, .inr ⟨rfl, h⟩⟩⟩

theorem utf8EncodeChar_append_lt {c d : Char} (h : c < d) (s t : Bytes) :
    String.utf8EncodeChar c ++ s < String.utf8EncodeChar d ++ t := by
  have hdigits := digits_lt (m := c.val.toNat) (n := d.val.toNat) h
  have hd : d.val.toNat < 1114112 := by
    rcases d.valid with h | h <;> exact by omega
  unfold String.utf8EncodeChar
  generalize c.val.toNat = m at *
  generalize d.val.toNat = n at *
  dsimp only
  -- both lengths at once: where they differ, the first bytes do
  split_ifs
  all_goals
    simp (disch := omega) only [List.cons_append, ofNat_cons_lt_iff]
    rcases hdigits with h | ⟨h, h | ⟨h', h | ⟨h'', h⟩⟩⟩ <;> omega

theorem exists_cons_utf8EncodeChar (c : Char) : ∃ b bs, String.utf8EncodeChar c = b :: bs := by
  unfold String.utf8EncodeChar
  dsimp only
  split_ifs <;> exact ⟨_, _, rfl⟩

theorem encode_lt_encode {s t : List Char} (h : s < t) : encode s < encode t := by
  induction s generalizing t with
  | nil =>
    cases t with
    | nil => exact absurd h (List.lt_irrefl [])
    | cons d t =>
      obtain ⟨b, bs, hb⟩ := exists_cons_utf8EncodeChar d
      have hcons : encode (d :: t) = String.utf8EncodeChar d ++ encode t := rfl
      rw [hcons, hb]
      exact List.nil_lt_cons _ _
  | cons c s ih =>
    cases t with
    | nil => exact absurd h (List.not_lt_nil _)
    | cons d t =>
      rcases List.cons_lt_cons_iff.1 h with hcd | ⟨rfl, hst⟩
      · exact utf8EncodeChar_append_lt hcd _ _
      · exact List.append_left_lt (ih hst)

/-- The order of texts is the order of their bytes. -/
theorem ofString_lt_iff {a b : String} : ofString a < ofString b ↔ a < b := by
  constructor
  · intro h
    by_contra hnot
    have hle : b ≤ a := String.not_lt.1 hnot
    by_cases heq : a = b
    · rw [heq] at h
      exact List.lt_irrefl _ h
    · have hlt : b < a := String.not_le.1 fun hab => heq (String.le_antisymm hab hle)
      exact List.lt_asymm h (encode_lt_encode (String.lt_iff.1 hlt))
  · intro h
    exact encode_lt_encode (String.lt_iff.1 h)

end ShuttleDesk.Utf8
