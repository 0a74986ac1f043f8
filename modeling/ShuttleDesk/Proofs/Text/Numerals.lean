/-
  ShuttleDesk/Proofs/Text/Numerals.lean
  =====================================
  Numerals within bounds.  The digits of a number that is within the bounds are read as
  that number, and nothing is read that is not.
-/
import ShuttleDesk.Numeral

namespace ShuttleDesk.Numeral

theorem le_ofDigitChars (ds : List Char) (n : Nat) : n ≤ Nat.ofDigitChars 10 ds n := by
  induction ds generalizing n with
  | nil => exact Nat.le_refl n
  | cons c ds ih =>
    rw [Nat.ofDigitChars_cons]
    have := ih (10 * n + (c.toNat - '0'.toNat))
    omega

theorem digit?_of_isDigit {c : Char} (h : c.isDigit = true) :
    digit? c = some (c.toNat - '0'.toNat) := by
  rw [Char.isDigit, Bool.and_eq_true, decide_eq_true_eq, decide_eq_true_eq] at h
  exact if_pos h

variable {limit acc : Nat} {overflow : Flaw} {ds : List Char} {b : Bounds}

/-- Digits are read as long as the number that they make stays below the limit. -/
theorem readDigits_of_le (hds : ∀ c ∈ ds, c.isDigit = true)
    (h : Nat.ofDigitChars 10 ds acc ≤ limit) :
    readDigits limit overflow acc ds = .ok (Nat.ofDigitChars 10 ds acc) := by
  induction ds generalizing acc with
  | nil => rfl
  | cons c ds ih =>
    obtain ⟨hc, hds⟩ := List.forall_mem_cons.1 hds
    rw [Nat.ofDigitChars_cons] at h ⊢
    have hle := le_ofDigitChars ds (10 * acc + (c.toNat - '0'.toNat))
    rw [readDigits, digit?_of_isDigit hc]
    dsimp only
    rw [Nat.mul_comm acc 10, if_neg (by omega), ih hds h]

theorem le_of_readDigits {n : Nat} (hacc : acc ≤ limit)
    (h : readDigits limit overflow acc ds = .ok n) : n ≤ limit := by
  induction ds generalizing acc with
  | nil =>
    cases h
    exact hacc
  | cons c ds ih =>
    rw [readDigits] at h
    cases hc : digit? c with
    | none =>
      rw [hc] at h
      cases h
    | some d =>
      simp only [hc] at h
      split at h
      · cases h
      · exact ih (by omega) h

theorem parse_digits {n : Nat} (h : (n : Int) ≤ b.greatest) : parse b (digits n) = .ok n := by
  have hvalue : Nat.ofDigitChars 10 (digits n) 0 = n := Nat.ofDigitChars_ten_toDigits
  have hdigits : ∀ c ∈ digits n, c.isDigit = true :=
    fun _ => Nat.isDigit_of_mem_toDigits (by decide) (by decide)
  have hread : readPositive b (digits n) = .ok n := by
    have hfits : Nat.ofDigitChars 10 (digits n) 0 ≤ b.greatest.toNat := by omega
    rw [readPositive, readDigits_of_le hdigits hfits, hvalue]
    rfl
  have hne : digits n ≠ [] := Nat.toDigits_ne_nil
  obtain ⟨c, cs, hcons⟩ := List.exists_cons_of_ne_nil hne
  have hc : c.isDigit = true := hdigits c (by simp [hcons])
  have hminus : ¬ (c = '-' ∧ b.least < 0) := by
    rintro ⟨rfl, -⟩
    cases hc
  have hplus : c ≠ '+' := by
    rintro rfl
    cases hc
  rw [hcons] at hread ⊢
  rw [parse, if_neg hminus, if_neg hplus, hread]

theorem contains_of_readPositive {n : Int} (hleast : b.least ≤ 0) (hgreatest : 0 ≤ b.greatest)
    (h : readPositive b ds = .ok n) : b.contains n = true := by
  unfold readPositive at h
  cases hread : readDigits b.greatest.toNat .tooLarge 0 ds with
  | error flaw =>
    rw [hread] at h
    cases h
  | ok k =>
    rw [hread] at h
    cases h
    have hle := le_of_readDigits (Nat.zero_le _) hread
    simp only [Bounds.contains, Bool.and_eq_true, decide_eq_true_eq, Int.ofNat_eq_natCast]
    omega

theorem contains_of_readNegative {n : Int} (hleast : b.least ≤ 0) (hgreatest : 0 ≤ b.greatest)
    (h : readNegative b ds = .ok n) : b.contains n = true := by
  unfold readNegative at h
  split at h
  · cases h
  · cases hread : readDigits b.least.natAbs .tooSmall 0 ds with
    | error flaw =>
      rw [hread] at h
      cases h
    | ok k =>
      rw [hread] at h
      cases h
      have hle := le_of_readDigits (Nat.zero_le _) hread
      simp only [Bounds.contains, Bool.and_eq_true, decide_eq_true_eq]
      omega

/-- What is read is within the bounds, if zero is. -/
theorem contains_of_parse {n : Int} (hleast : b.least ≤ 0) (hgreatest : 0 ≤ b.greatest)
    (h : parse b ds = .ok n) : b.contains n = true := by
  cases ds with
  | nil => cases h
  | cons c ds =>
    rw [parse] at h
    split at h
    · exact contains_of_readNegative hleast hgreatest h
    split at h
    · split at h
      · cases h
      · exact contains_of_readPositive hleast hgreatest h
    · exact contains_of_readPositive hleast hgreatest h

end ShuttleDesk.Numeral
