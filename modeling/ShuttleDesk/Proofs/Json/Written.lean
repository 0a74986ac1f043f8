/-
  ShuttleDesk/Proofs/Json/Written.lean
  ====================================
  What is written is read again.  A text is written with its quotation marks, backslashes
  and control characters escaped, and each character of it is read back; a number that fits
  its word is read back from its digits, provided that no digit follows.

  For a record it is said member by member what each one puts into which field (`Takes`,
  `TakesAll`); a written object then gives the values that its members put.
-/
import Mathlib.Tactic.SplitIfs
import ShuttleDesk.Json.Record
import ShuttleDesk.Json.Value
import ShuttleDesk.Proofs.Text.Escapes
import ShuttleDesk.Proofs.Text.Numerals

namespace ShuttleDesk

namespace Json

open Scan

namespace Scan

variable {α β : Type} {bs rest : Bytes} {a : α}

theorem bind_of_ok {r : Scan α} {k : α → Scan β} (h : r bs = .ok (a, rest)) :
    (r >>= k) bs = k a rest := by
  simp only [bind, StateT.bind, h, Except.bind]

theorem peekOr_cons {f : Fault} {b : UInt8} (h : isBlank b = false) :
    peekOr f (b :: bs) = .ok (b, b :: bs) := by
  have hpeek : peek (b :: bs) = .ok (some b, b :: bs) := by
    simp [peek, h]
  rw [peekOr, bind_of_ok hpeek]
  rfl

theorem skip_cons {b : UInt8} : skip (b :: bs) = .ok ((), bs) := rfl

/-- A character of the seven-bit range is written as one byte. -/
theorem encode_cons_of_ascii {c : Char} {s : List Char} (h : c.toNat < 0x80) :
    Utf8.encode (c :: s) = byte c :: Utf8.encode s := by
  have hsize : c.utf8Size = 1 := Char.utf8Size_eq_one_iff.2 (by
    rw [UInt32.le_iff_toNat_le]
    exact Nat.le_of_lt_succ h)
  rw [Utf8.encode, List.flatMap_cons, String.utf8EncodeChar_eq_singleton hsize]
  rfl

/-! ### Strings -/

variable {skipped : Bool} {out text : Bytes}

theorem stringBytes_quote : stringBytes skipped (byte '"' :: bs) = .ok ([], bs) := by
  rw [stringBytes, if_pos rfl]

theorem stringBytes_escape {tail : Bytes} (h : escape skipped bs = .ok (out, tail))
    (htail : stringBytes skipped tail = .ok (text, rest)) :
    stringBytes skipped (byte '\\' :: bs) = .ok (out ++ text, rest) := by
  rw [stringBytes, if_neg (by decide), if_pos rfl]
  split
  case h_1 f hf =>
    rw [h] at hf
    cases hf
  case h_2 out' tail' hok =>
    rw [h] at hok
    cases hok
    rw [htail]
    rfl

/-- The byte stands for itself in a string. -/
def IsPlain (b : UInt8) : Prop := b ≠ byte '"' ∧ b ≠ byte '\\' ∧ ¬ b < 0x20

theorem stringBytes_plain {plain : Bytes} (h : ∀ b ∈ plain, IsPlain b)
    (hbs : stringBytes skipped bs = .ok (text, rest)) :
    stringBytes skipped (plain ++ bs) = .ok (plain ++ text, rest) := by
  induction plain with
  | nil => exact hbs
  | cons b plain ih =>
    obtain ⟨⟨hquote, hslash, hcontrol⟩, hplain⟩ := List.forall_mem_cons.1 h
    rw [List.cons_append, stringBytes, if_neg hquote, if_neg hslash, if_neg hcontrol, ih hplain]
    rfl

theorem hexDigit_spec :
    ∀ n < 32, (Utf8.encode [hexDigit n]).map hexValue? = [some (n % 16)] := by
  decide +kernel

/-- The escape by number of a character below the blank is read as that character. -/
theorem escape_number (skipped : Bool) (bs : Bytes) {c : Char} (h : c.toNat < 0x20) :
    ∃ out, escape skipped (Utf8.encode
        ['u', '0', '0', hexDigit (c.toNat / 16), hexDigit c.toNat] ++ bs) = .ok (out, bs) ∧
      (skipped = false → out = Utf8.encode [c]) := by
  obtain ⟨high, hhigh, hhigh'⟩ :=
    List.map_eq_singleton_iff.1 (hexDigit_spec (c.toNat / 16) (by omega))
  obtain ⟨low, hlow, hlow'⟩ := List.map_eq_singleton_iff.1 (hexDigit_spec c.toNat h)
  have hbytes : Utf8.encode ['u', '0', '0', hexDigit (c.toNat / 16), hexDigit c.toNat]
      = [byte 'u', byte '0', byte '0', high, low] := by
    change Utf8.encode (['u', '0', '0'] ++ [hexDigit (c.toNat / 16)] ++ [hexDigit c.toNat]) = _
    rw [Utf8.encode_append, Utf8.encode_append, hhigh, hlow]
    rfl
  have hfour : hexFour (byte '0' :: byte '0' :: high :: low :: bs) = .ok (c.toNat, bs) := by
    have hzero : hexValue? (byte '0') = some 0 := by decide
    simp only [hexFour, hzero, hhigh', hlow']
    congr
    omega
  have hletter : letterEscape? (byte 'u') = none := by decide
  rw [hbytes]
  simp only [List.cons_append, List.nil_append, escape, hletter, if_true]
  cases skipped with
  | true => exact ⟨[], by simp [hfour, Except.map], Bool.noConfusion⟩
  | false =>
    have hunit : isTrailing c.toNat = false ∧ isLeading c.toNat = false := by
      simp only [isTrailing, isLeading, Bool.and_eq_false_iff, decide_eq_false_iff_not]
      omega
    exact ⟨_, by simp [numberEscape, hfour, hunit, codePoint, Utf8.encode], fun _ => rfl⟩

/-- A character that is written as it stands has plain bytes only. -/
theorem isPlain_of_mem_encode {c : Char} {b : UInt8} (hquote : c ≠ '"') (hslash : c ≠ '\\')
    (hcontrol : ¬ c.toNat < 0x20) (h : b ∈ Utf8.encode [c]) : IsPlain b := by
  by_cases hb : b.toNat < 0x80
  · have hc : Char.ofNat b.toNat = c := List.mem_singleton.1 (Utf8.ofNat_mem_of_mem_encode h hb)
    have hnat : c.toNat = b.toNat := by
      have hnat : ∀ n < 0x80, (Char.ofNat n).toNat = n := by decide
      rw [← hc, hnat _ hb]
    refine ⟨?_, ?_, ?_⟩
    · rintro rfl
      exact hquote hc.symm
    · rintro rfl
      exact hslash hc.symm
    · rw [UInt8.lt_iff_toNat_lt]
      exact fun hlt => hcontrol (hnat ▸ hlt)
  · refine ⟨?_, ?_, ?_⟩
    · rintro rfl
      exact hb (by decide)
    · rintro rfl
      exact hb (by decide)
    · rw [UInt8.lt_iff_toNat_lt]
      intro hlt
      exact hb (Nat.lt_trans hlt (by decide))

/-- How a character is written in a string. -/
inductive Spelling (c : Char) : List Char → Prop where
  | letter {l : Char} {b : UInt8} (ascii : l.toNat < 0x80) (read : letterEscape? (byte l) = some b)
      (written : Utf8.encode [c] = [b]) : Spelling c ['\\', l]
  | number (control : c.toNat < 0x20) :
      Spelling c ['\\', 'u', '0', '0', hexDigit (c.toNat / 16), hexDigit c.toNat]
  | plain (bytes : ∀ b ∈ Utf8.encode [c], IsPlain b) : Spelling c [c]

theorem spelling_escapedChar (c : Char) : Spelling c (escapedChar c) := by
  unfold escapedChar
  split_ifs with hquote hslash hback hfeed hline hreturn htab hcontrol
  case pos => subst hquote; exact .letter (b := 0x22) (by decide) (by decide) (by decide)
  case pos => subst hslash; exact .letter (b := 0x5C) (by decide) (by decide) (by decide)
  case pos => subst hback; exact .letter (b := 0x08) (by decide) (by decide) (by decide)
  case pos => subst hfeed; exact .letter (b := 0x0C) (by decide) (by decide) (by decide)
  case pos => subst hline; exact .letter (b := 0x0A) (by decide) (by decide) (by decide)
  case pos => subst hreturn; exact .letter (b := 0x0D) (by decide) (by decide) (by decide)
  case pos => subst htab; exact .letter (b := 0x09) (by decide) (by decide) (by decide)
  case pos => exact .number hcontrol
  case neg => exact .plain fun b hb => isPlain_of_mem_encode hquote hslash hcontrol hb

theorem stringBytes_escapedChar (c : Char) (h : stringBytes skipped bs = .ok (text, rest)) :
    ∃ out, stringBytes skipped (Utf8.encode (escapedChar c) ++ bs) = .ok (out ++ text, rest) ∧
      (skipped = false → out = Utf8.encode [c]) := by
  have hspelling := spelling_escapedChar c
  generalize escapedChar c = written at hspelling
  cases hspelling with
  | @letter l b ascii read written =>
    refine ⟨[b], ?_, fun _ => written.symm⟩
    rw [encode_cons_of_ascii (by decide), encode_cons_of_ascii ascii]
    have hescape : escape skipped (byte l :: bs) = .ok ([b], bs) := by
      simp only [escape, read]
    exact stringBytes_escape hescape h
  | number control =>
    obtain ⟨out, hout, hread⟩ := escape_number skipped bs control
    refine ⟨out, ?_, hread⟩
    rw [encode_cons_of_ascii (by decide)]
    exact stringBytes_escape hout h
  | plain bytes => exact ⟨_, stringBytes_plain bytes h, fun _ => rfl⟩

/-- What is written between the quotes of a string is read as the string, or skipped. -/
theorem stringBytes_written (skipped : Bool) (s : List Char) (rest : Bytes) :
    ∃ out, stringBytes skipped (Utf8.encode (s.flatMap escapedChar) ++ byte '"' :: rest)
        = .ok (out, rest) ∧ (skipped = false → out = Utf8.encode s) := by
  induction s with
  | nil => exact ⟨[], stringBytes_quote, fun _ => rfl⟩
  | cons c s ih =>
    obtain ⟨text, htext, hs⟩ := ih
    obtain ⟨out, hout, hc⟩ := stringBytes_escapedChar c htext
    refine ⟨out ++ text, ?_, ?_⟩
    · rw [List.flatMap_cons, Utf8.encode_append, List.append_assoc, hout]
    · intro hread
      rw [hc hread, hs hread, ← Utf8.encode_append]
      rfl

/-! ### Numbers -/

/-- What stands here goes on with a comma or ends with a closing brace. -/
inductive Continues : Bytes → Prop where
  | comma (bs : Bytes) : Continues (byte ',' :: bs)
  | brace (bs : Bytes) : Continues (byte '\x7d' :: bs)

/-- The number that a digit stands for. -/
def digitOf (c : Char) : Nat := c.toNat - '0'.toNat

theorem digitValue?_of_isDigit {c : Char} (h : c.isDigit = true) :
    digitValue? (byte c) = some (digitOf c) := by
  obtain ⟨hleast, hgreatest⟩ := Char.isDigit_iff_toNat.1 h
  have hleast' : 48 ≤ c.toNat := hleast
  have hgreatest' : c.toNat ≤ 57 := hgreatest
  have hbyte : (byte c).toNat = c.toNat := by
    have hmod : (byte c).toNat = c.toNat % 256 := UInt32.toNat_toUInt8 c.val
    omega
  have hdigit : byte '0' ≤ byte c ∧ byte c ≤ byte '9' := by
    rw [UInt8.le_iff_toNat_le, UInt8.le_iff_toNat_le, hbyte]
    exact ⟨hleast, hgreatest⟩
  rw [digitValue?, if_pos hdigit, hbyte]
  rfl

theorem toNat_lt_of_isDigit {c : Char} (h : c.isDigit = true) : c.toNat < 0x80 :=
  Nat.lt_of_le_of_lt (Char.isDigit_iff_toNat.1 h).2 (by decide)

theorem Continues.digits (h : Continues rest) : digits rest = ([], rest) := by
  cases h <;> rfl

theorem digits_written {ds : List Char} (hds : ∀ c ∈ ds, c.isDigit = true)
    (h : Continues rest) :
    digits (Utf8.encode ds ++ rest) = (ds.map digitOf, rest) := by
  induction ds with
  | nil => exact h.digits
  | cons c ds ih =>
    obtain ⟨hc, hds⟩ := List.forall_mem_cons.1 hds
    rw [encode_cons_of_ascii (toNat_lt_of_isDigit hc), List.cons_append, Scan.digits]
    rw [digitValue?_of_isDigit hc, ih hds]
    rfl

/-- Digits are taken into the significand as long as the number that they make fits. -/
theorem accumulate_digits {ds : List Char} {n : Nat}
    (h : Nat.ofDigitChars 10 ds n ≤ greatestSignificand) :
    accumulate n (ds.map digitOf) = (Nat.ofDigitChars 10 ds n, []) := by
  induction ds generalizing n with
  | nil => rfl
  | cons c ds ih =>
    rw [Nat.ofDigitChars_cons] at h ⊢
    have hle := Numeral.le_ofDigitChars ds (10 * n + (c.toNat - '0'.toNat))
    have hstep : n * 10 + digitOf c = 10 * n + (c.toNat - '0'.toNat) := by
      rw [Nat.mul_comm]
      rfl
    rw [List.map_cons, accumulate, hstep, if_pos (Nat.le_trans hle h), ih h]

/-- The digits of a number begin with a zero only if it is zero. -/
theorem exists_digits_eq_cons (n : Nat) :
    ∃ c ds, Numeral.digits n = c :: ds ∧ (digitOf c = 0 → n = 0) := by
  have hdigit : ∀ d < 10, digitOf (Nat.digitChar d) = d := by decide
  induction n using Nat.strongRecOn with
  | ind n ih =>
    by_cases hn : n < 10
    · exact ⟨_, [], Nat.toDigits_of_lt_base hn, fun h => by rwa [hdigit n hn] at h⟩
    · obtain ⟨c, ds, hcons, hzero⟩ := ih (n / 10) (by omega)
      refine ⟨c, ds ++ [(n % 10).digitChar], ?_, ?_⟩
      · rw [Numeral.digits, Nat.toDigits_of_base_le (by decide) (by omega), ← Numeral.digits,
          hcons]
        rfl
      · intro hc
        have := hzero hc
        omega

theorem wholeDigits_written (n : Nat) (h : Continues rest) :
    wholeDigits (Utf8.encode (Numeral.digits n) ++ rest)
      = .ok ((Numeral.digits n).map digitOf, rest) := by
  have hds : ∀ c ∈ Numeral.digits n, c.isDigit = true := fun c hc =>
    Nat.isDigit_of_mem_toDigits (by decide) (by decide) hc
  rw [wholeDigits, digits_written hds h]
  obtain ⟨c, ds, hcons, hzero⟩ := exists_digits_eq_cons n
  cases hc : digitOf c with
  | zero =>
    rw [hzero hc]
    rfl
  | succ d =>
    rw [hcons, List.map_cons, hc]
    rfl

theorem Continues.head? (h : Continues rest) :
    (rest.head? == some (byte '.')) = false ∧ isExponentMark rest.head? = false := by
  cases h <;> exact ⟨rfl, rfl⟩

theorem numberRest_written {negative : Bool} {n : Nat} (hn : n ≤ greatestSignificand)
    (hleast : negative = true → n ≠ 0 ∧ Numeral.Bounds.signed64.least ≤ -(n : Int))
    (h : Continues rest) :
    numberRest negative (Utf8.encode (Numeral.digits n) ++ rest)
      = .ok (.integer (if negative then -(n : Int) else n), rest) := by
  have hvalue : Nat.ofDigitChars 10 (Numeral.digits n) 0 = n := Nat.ofDigitChars_ten_toDigits
  have haccumulate : accumulate 0 ((Numeral.digits n).map digitOf) = (n, []) := by
    rw [accumulate_digits (by rw [hvalue]; exact hn), hvalue]
  obtain ⟨hpoint, hmark⟩ := h.head?
  have hplain : plainNumber negative n 0 = .ok (.integer (if negative then -(n : Int) else n)) := by
    cases negative with
    | false => rfl
    | true =>
      obtain ⟨hzero, hleast⟩ := hleast rfl
      have hfits : ¬ (-(n : Int) = 0 ∨ -(n : Int) < Numeral.Bounds.signed64.least) := by omega
      unfold plainNumber
      dsimp only
      rw [if_neg (by simp), if_neg (by simp), if_neg hfits]
      rfl
  simp only [numberRest, wholeDigits_written n h, haccumulate, hpoint, hmark, List.length_nil,
    hplain]
  rfl

theorem skipNumberRest_written (n : Nat) (h : Continues rest) :
    skipNumberRest (Utf8.encode (Numeral.digits n) ++ rest) = .ok ((), rest) := by
  have hds : ∀ c ∈ Numeral.digits n, c.isDigit = true := fun c hc =>
    Nat.isDigit_of_mem_toDigits (by decide) (by decide) hc
  obtain ⟨hpoint, hmark⟩ := h.head?
  have hexponent : skipExponent rest = .ok rest := by
    rw [skipExponent, hmark]
    rfl
  obtain ⟨c, ds, hcons, hzero⟩ := exists_digits_eq_cons n
  unfold skipNumberRest
  rw [digits_written hds h]
  cases hc : digitOf c with
  | zero =>
    have hdigits : (Numeral.digits n).map digitOf = [0] := by
      rw [hzero hc]
      rfl
    rw [hdigits]
    simp only [bind, Except.bind, hpoint, hexponent]
    rfl
  | succ d =>
    rw [hcons, List.map_cons, hc]
    simp only [bind, Except.bind, hpoint, hexponent]
    rfl

end Scan

/-! ### Values -/

/-- The scan takes the value as it is written, whatever comes next in a list of members. -/
def Reads {α : Type} (r : Scan α) (v : Value) (a : α) : Prop :=
  ∀ rest, Continues rest → r (Utf8.encode (render v) ++ rest) = .ok (a, rest)

theorem encode_renderString (s : List Char) (rest : Bytes) :
    Utf8.encode (renderString s) ++ rest
      = byte '"' :: (Utf8.encode (s.flatMap escapedChar) ++ byte '"' :: rest) := by
  rw [renderString, Utf8.encode_append, Utf8.encode_append, List.append_assoc, List.append_assoc]
  rfl

theorem stringRest_written (s : String) (rest : Bytes) :
    stringRest (Utf8.encode (s.toList.flatMap escapedChar) ++ byte '"' :: rest) =
      .ok (s, rest) := by
  obtain ⟨out, hout, hread⟩ := stringBytes_written false s.toList rest
  have htext : Utf8.toString? out = some s := by
    rw [hread rfl]
    exact Utf8.toString?_ofString s
  simp only [stringRest, hout, htext]

theorem reads_text (s : String) : Reads text (.string s) s := by
  intro rest _
  rw [render, encode_renderString, text, stringNamed, bind_of_ok (peekOr_cons (by decide)),
    if_pos rfl, bind_of_ok skip_cons]
  exact stringRest_written s rest

/-- A number that is not negative begins with a digit. -/
theorem exists_encode_digits (n : Nat) :
    ∃ b bs, Utf8.encode (Numeral.digits n) = b :: bs ∧ isDigit b = true := by
  obtain ⟨c, ds, hcons, -⟩ := exists_digits_eq_cons n
  have hc : c.isDigit = true :=
    Nat.isDigit_of_mem_toDigits (b := 10) (n := n) (by decide) (by decide)
      (by rw [← Numeral.digits, hcons]; exact List.mem_cons_self)
  refine ⟨byte c, Utf8.encode ds, ?_, ?_⟩
  · rw [hcons, encode_cons_of_ascii (toNat_lt_of_isDigit hc)]
  · rw [isDigit, digitValue?_of_isDigit hc]
    rfl

/-- A digit is none of the bytes that values of another kind begin with. -/
theorem ne_of_isDigit {b : UInt8} (h : isDigit b = true) : isBlank b = false ∧ b ≠ byte '-' ∧
    b ≠ byte 'n' ∧ b ≠ byte 't' ∧ b ≠ byte 'f' ∧ b ≠ byte '[' ∧ b ≠ byte '\x7b' := by
  have hblank : isBlank b = false := by
    have hnone : ∀ blank ∈ [0x20, 0x0A, 0x0D, 0x09], isDigit blank = false := by decide +kernel
    cases hb : isBlank b with
    | false => rfl
    | true =>
      have hmem : b ∈ [0x20, 0x0A, 0x0D, 0x09] := by
        simpa [isBlank, or_assoc] using hb
      rw [hnone b hmem] at h
      cases h
  refine ⟨hblank, ?_, ?_, ?_, ?_, ?_, ?_⟩ <;>
  · rintro rfl
    revert h
    decide

theorem contains_signed64_iff {n : Int} : Numeral.Bounds.signed64.contains n = true ↔
    -9223372036854775808 ≤ n ∧ n ≤ 9223372036854775807 := by
  rw [Numeral.Bounds.contains, Bool.and_eq_true, decide_eq_true_iff, decide_eq_true_iff]
  rfl

/-- What follows the sign of a number that fits its word. -/
theorem numberRest_ofInt {n : Int} (h : Numeral.Bounds.signed64.contains n = true)
    (hrest : Continues rest) :
    numberRest (decide (n < 0)) (Utf8.encode (Numeral.digits n.natAbs) ++ rest) =
      .ok (.integer n, rest) := by
  have hbounds := contains_signed64_iff.1 h
  have hfits : n.natAbs ≤ greatestSignificand := by
    have : greatestSignificand = 18446744073709551615 := rfl
    omega
  have hleast : decide (n < 0) = true →
      n.natAbs ≠ 0 ∧ Numeral.Bounds.signed64.least ≤ -(n.natAbs : Int) := by
    have : Numeral.Bounds.signed64.least = -9223372036854775808 := rfl
    rw [decide_eq_true_iff]
    omega
  have hvalue : (if decide (n < 0) = true then -(n.natAbs : Int) else n.natAbs) = n := by
    simp only [decide_eq_true_eq]
    split <;> omega
  rw [numberRest_written hfits hleast hrest, hvalue]

theorem reads_int64 {n : Int} (h : Numeral.Bounds.signed64.contains n = true) :
    Reads int64 (.integer n) n := by
  intro rest hrest
  have hnumber := numberRest_ofInt h hrest
  unfold int64 integerNamed
  rw [render, Numeral.ofInt]
  by_cases hn : n < 0
  · rw [decide_eq_true hn] at hnumber
    rw [if_pos hn, encode_cons_of_ascii (by decide), List.cons_append,
      bind_of_ok (peekOr_cons (by decide)), if_pos rfl, bind_of_ok skip_cons, bind_of_ok hnumber]
    simp only [Number.within, h, if_true]
    rfl
  · rw [decide_eq_false hn] at hnumber
    obtain ⟨b, bs, hb, hdigit⟩ := exists_encode_digits n.natAbs
    obtain ⟨hblank, hminus, -⟩ := ne_of_isDigit hdigit
    rw [if_neg hn, hb, List.cons_append, bind_of_ok (peekOr_cons hblank), if_neg hminus,
      if_pos hdigit, ← List.cons_append, ← hb, bind_of_ok hnumber]
    simp only [Number.within, h, if_true]
    rfl

theorem reads_skipValue_integer (n : Int) : Reads skipValue (.integer n) () := by
  intro rest hrest
  rw [render, Numeral.ofInt, skipValue, skipValueFor]
  by_cases hn : n < 0
  · rw [if_pos hn, encode_cons_of_ascii (by decide), List.cons_append,
      bind_of_ok (peekOr_cons (by decide)), if_neg (by decide), if_neg (by decide),
      if_neg (by decide), if_pos rfl, bind_of_ok skip_cons]
    exact skipNumberRest_written _ hrest
  · obtain ⟨b, bs, hb, hdigit⟩ := exists_encode_digits n.natAbs
    obtain ⟨hblank, hminus, hnull, htrue, hfalse, -⟩ := ne_of_isDigit hdigit
    rw [if_neg hn, hb, List.cons_append, bind_of_ok (peekOr_cons hblank), if_neg hnull,
      if_neg htrue, if_neg hfalse, if_neg hminus, if_pos hdigit, ← List.cons_append, ← hb]
    exact skipNumberRest_written _ hrest

theorem reads_skipValue_string (s : String) : Reads skipValue (.string s) () := by
  intro rest _
  obtain ⟨out, hout, -⟩ := stringBytes_written true s.toList rest
  rw [render, encode_renderString, skipValue, skipValueFor, bind_of_ok (peekOr_cons (by decide)),
    if_neg (by decide), if_neg (by decide), if_neg (by decide), if_neg (by decide),
    if_neg (by decide), if_pos rfl, bind_of_ok skip_cons, skipStringRest, hout]
  rfl

/-! ### Members -/

theorem colon_cons (bs : Bytes) : colon (byte ':' :: bs) = .ok ((), bs) := by
  rw [colon, bind_of_ok (peekOr_cons (by decide)), if_pos rfl]
  rfl

variable {fs : List Field} {f : Field} {name : String} {v : Value} {bs rest : Bytes}

/-- The member is read into the slots, or it is none of the fields and skipped: from the slots on
the left come those on the right. -/
inductive Takes {fs : List Field} (s : Slots fs) : String × Value → Slots fs → Prop where
  | field {name : String} {v : Value} {t : Slots fs} {r : RecordScan (Slots fs)}
      (known : Slots.read name fs s = some r)
      (read : ∀ rest, Continues rest →
        r (byte ':' :: (Utf8.encode (render v) ++ rest)) = .ok (t, rest)) : Takes s (name, v) t
  | other {name : String} {v : Value} (unknown : Slots.read name fs s = none)
      (skipped : Reads skipValue v ()) : Takes s (name, v) s

theorem within_of_ok {α : Type} {place : Option Place} {r : Scan α} {p : α × Bytes}
    (h : r bs = .ok p) : Scan.within place r bs = .ok p := by
  rw [Scan.within, h]

theorem takes_here {x : f.Value} {s : Slots fs} (hname : f.name = name) (h : Reads f.read v x) :
    @Takes (f :: fs) (none, s) (name, v) (some x, s) := by
  refine .field (if_pos hname) fun rest hrest => within_of_ok ?_
  exact (bind_of_ok (colon_cons _)).trans (bind_of_ok (h rest hrest))

theorem takes_there {slot : Option f.Value} {s t : Slots fs} (hname : f.name ≠ name)
    (h : Takes s (name, v) t) : @Takes (f :: fs) (slot, s) (name, v) (slot, t) := by
  cases h with
  | field known read =>
    exact .field ((if_neg hname).trans (congrArg (Option.map _) known)) fun rest hrest =>
      congrArg (Except.map _) (read rest hrest)
  | other unknown skipped =>
    exact .other ((if_neg hname).trans (congrArg (Option.map _) unknown)) skipped

theorem Takes.readMember_eq {s t : Slots fs} (h : Takes s (name, v) t) (hrest : Continues rest) :
    readMember fs s (Utf8.encode (name.toList.flatMap escapedChar) ++
      byte '"' :: byte ':' :: (Utf8.encode (render v) ++ rest)) = .ok (t, rest) := by
  simp only [readMember, within_of_ok (stringRest_written name _)]
  cases h with
  | field known read =>
    simp only [known]
    exact read rest hrest
  | other unknown skipped =>
    simp only [unknown]
    exact within_of_ok ((bind_of_ok (colon_cons _)).trans (bind_of_ok (skipped rest hrest)))

/-- The members are read one after the other. -/
inductive TakesAll {fs : List Field} :
    Slots fs → List (String × Value) → Slots fs → Prop where
  | nil (s : Slots fs) : TakesAll s [] s
  | cons {s t u : Slots fs} {m : String × Value} {ms : List (String × Value)}
      (first : Takes s m t) (others : TakesAll t ms u) : TakesAll s (m :: ms) u

/-- What stands from a member on, with its comma if it is not the first. -/
def membersText : Bool → List (String × Value) → List Char
  | _, [] => ['\x7d']
  | first, (name, v) :: ms =>
    (if first then [] else [',']) ++ renderString name.toList ++ [':'] ++ render v
      ++ membersText false ms

theorem renderMembers_append (ms : List (String × Value)) :
    renderMembers ms ++ ['\x7d'] = membersText true ms := by
  induction ms with
  | nil => rfl
  | cons m ms ih =>
    cases ms with
    | nil => simp [renderMembers, membersText]
    | cons m' ms =>
      rw [renderMembers, membersText, List.append_assoc _ (renderMembers _), ih, membersText,
        membersText]
      simp

theorem continues_membersText (ms : List (String × Value)) :
    Continues (Utf8.encode (membersText false ms) ++ rest) := by
  cases ms with
  | nil => exact .brace rest
  | cons m ms => exact .comma _

theorem length_lt_membersText (first : Bool) (ms : List (String × Value)) :
    ms.length < (Utf8.encode (membersText first ms)).length := by
  induction ms generalizing first with
  | nil => exact Nat.one_pos
  | cons m ms ih =>
    have hname : Utf8.encode (renderString m.1.toList) 
        = byte '"' :: (Utf8.encode (m.1.toList.flatMap escapedChar) ++ [byte '"']) := by
      simpa using encode_renderString m.1.toList []
    have hms := ih false
    simp only [membersText, Utf8.encode_append, hname, List.length_append, List.length_cons]
    omega

theorem nextMember_brace (first : Bool) :
    nextMember first (byte '\x7d' :: bs) = .ok (false, byte '\x7d' :: bs) := by
  rw [nextMember, bind_of_ok (peekOr_cons (by decide)), if_pos rfl]
  rfl

theorem nextMember_quote : nextMember true (byte '"' :: bs) = .ok (true, bs) := by
  rw [nextMember, bind_of_ok (peekOr_cons (by decide)), if_neg (by decide), if_neg (by decide),
    if_pos rfl, if_pos rfl, bind_of_ok skip_cons]
  rfl

theorem nextMember_comma : nextMember false (byte ',' :: byte '"' :: bs) = .ok (true, bs) := by
  rw [nextMember, bind_of_ok (peekOr_cons (by decide)), if_neg (by decide), if_pos (by decide),
    bind_of_ok skip_cons, bind_of_ok (peekOr_cons (by decide)), if_pos rfl, bind_of_ok skip_cons]
  rfl

/-- The next member is found after the quote that opens its name. -/
theorem nextMember_written (first : Bool) (name : String) (v : Value)
    (ms : List (String × Value)) :
    nextMember first (Utf8.encode (membersText first ((name, v) :: ms)) ++ rest)
      = .ok (true, Utf8.encode (name.toList.flatMap escapedChar) ++ byte '"' :: byte ':' ::
          (Utf8.encode (render v) ++ (Utf8.encode (membersText false ms) ++ rest))) := by
  have hcomma : Utf8.encode (if first then [] else [',']) = if first then [] else [byte ','] := by
    cases first <;> rfl
  have hcolon : ∀ s, Utf8.encode (':' :: s) = byte ':' :: Utf8.encode s := fun s =>
    encode_cons_of_ascii (by decide)
  simp only [membersText, Utf8.encode_append, List.append_assoc, encode_renderString,
    List.cons_append, List.nil_append, hcolon, hcomma]
  cases first with
  | true => exact nextMember_quote
  | false => exact nextMember_comma

theorem readMembers_written {s t : Slots fs} {ms : List (String × Value)} (h : TakesAll s ms t)
    (first : Bool) (rest : Bytes) {fuel : Nat} (hfuel : ms.length < fuel) :
    readMembers fs fuel first s (Utf8.encode (membersText first ms) ++ rest) = .ok (t, rest) := by
  induction h generalizing first fuel with
  | nil s =>
    obtain ⟨fuel, rfl⟩ := Nat.exists_eq_succ_of_ne_zero (Nat.ne_zero_of_lt hfuel)
    have hbrace : Utf8.encode (membersText first []) ++ rest = byte '\x7d' :: rest := rfl
    simp only [readMembers, hbrace, within_of_ok (nextMember_brace first)]
    rfl
  | @cons s t u m ms htakes _ ih =>
    obtain ⟨fuel, rfl⟩ := Nat.exists_eq_succ_of_ne_zero (Nat.ne_zero_of_lt hfuel)
    obtain ⟨name, v⟩ := m
    simp only [readMembers, within_of_ok (nextMember_written first name v ms),
      htakes.readMember_eq (continues_membersText ms)]
    exact ih false (Nat.lt_of_succ_lt_succ hfuel)

/-- An object is read as the record whose slots its members fill. -/
theorem readWhole_written (shape : Shape) {ms : List (String × Value)} {t : Slots shape.fields}
    {vs : Values shape.fields} (h : TakesAll (Slots.empty shape.fields) ms t)
    (hfill : Slots.fill shape.fields t = .ok vs) :
    readWhole shape (Utf8.encode (render (.object ms))) = .ok vs := by
  have htext : Utf8.encode (render (.object ms))
      = byte '\x7b' :: (Utf8.encode (membersText true ms) ++ []) := by
    rw [render, List.append_assoc, renderMembers_append, List.append_nil]
    exact encode_cons_of_ascii (by decide)
  have hfuel : ms.length <
      (byte '\x7b' :: (Utf8.encode (membersText true ms) ++ [])).length + 1 := by
    have := length_lt_membersText true ms
    simp only [List.length_cons, List.length_append]
    omega
  have hmembers := readMembers_written h true [] hfuel
  rw [htext]
  unfold readWhole readRecord
  rw [within_of_ok (peekOr_cons (by decide))]
  simp only [if_true, List.drop_succ_cons, List.drop_zero, hmembers, hfill]
  rfl

end Json
end ShuttleDesk
