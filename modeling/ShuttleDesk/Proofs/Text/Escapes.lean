/-
  ShuttleDesk/Proofs/Text/Escapes.lean
  ====================================
  What percent encoding keeps.  An encoder that leaves `%` and hexadecimal digits alone
  may be run over a text that is encoded already: decoding what it writes gives what
  decoding the text gives.  So such an encoder is undone by decoding exactly for the
  texts in which nothing can be taken for an escape.
-/
import Mathlib.Tactic.SplitIfs
import ShuttleDesk.Text.Percent

namespace ShuttleDesk

namespace Utf8

theorem encode_inj {s t : List Char} : encode s = encode t ↔ s = t := by
  constructor
  · intro h
    exact Option.some.inj (by rw [← decode?_encode s, h, decode?_encode])
  · exact congrArg encode

/-- Only the characters of the seven-bit range have bytes in that range. -/
theorem ofNat_mem_of_mem_encode {b : UInt8} {s : List Char} (h : b ∈ encode s)
    (hb : b.toNat < 0x80) : Char.ofNat b.toNat ∈ s := by
  obtain ⟨c, hc, h⟩ := List.mem_flatMap.1 h
  have hbyte : c.toNat ≤ 127 ∧ b.toNat = c.toNat := by
    change c.val.toNat ≤ 127 ∧ b.toNat = c.val.toNat
    unfold String.utf8EncodeChar at h
    generalize c.val.toNat = n at *
    dsimp only at h
    -- every byte of a longer form has its first bit set
    split_ifs at h <;> simp only [List.mem_cons, List.not_mem_nil, or_false] at h
    · rw [h, UInt8.toNat_ofNat']
      omega
    · rcases h with rfl | rfl <;> rw [UInt8.toNat_ofNat'] at hb <;> omega
    · rcases h with rfl | rfl | rfl <;> rw [UInt8.toNat_ofNat'] at hb <;> omega
    · rcases h with rfl | rfl | rfl | rfl <;> rw [UInt8.toNat_ofNat'] at hb <;> omega
  rw [hbyte.2, Char.ofNat_toNat]
  exact hc

end Utf8

namespace Percent

variable {plain : UInt8 → Bool} {b h l : UInt8} {rest : Bytes}

/-! ### Escapes -/

/-- Two hexadecimal digits come first. -/
def startsWithHex : Bytes → Bool
  | h :: l :: _ => (hexValue? h).isSome && (hexValue? l).isSome
  | _ => false

/-- The byte and the first that follow are an escape. -/
def opensEscape (b : UInt8) (rest : Bytes) : Bool := b == '%'.toUInt8 && startsWithHex rest

/-- Somewhere a `%` is followed by two hexadecimal digits. -/
def hasEscape : Bytes → Bool
  | [] => false
  | b :: rest => opensEscape b rest || hasEscape rest

theorem hexValue?_percent : hexValue? '%'.toUInt8 = none := rfl

theorem decode_escape {m n : Nat} (hh : hexValue? h = some m) (hl : hexValue? l = some n) :
    decode ('%'.toUInt8 :: h :: l :: rest) = (m * 16 + n).toUInt8 :: decode rest := by
  rw [decode, if_pos rfl, hh, hl]

theorem decode_cons (hb : opensEscape b rest = false) : decode (b :: rest) = b :: decode rest := by
  match rest with
  | [] => rfl
  | [_] => rfl
  | h :: l :: rest =>
    rw [decode]
    split
    case isFalse => rfl
    case isTrue hpercent =>
      subst hpercent
      cases hh : hexValue? h <;> cases hl : hexValue? l <;>
        first | rfl | simp [opensEscape, startsWithHex, hh, hl] at hb

theorem exists_of_opensEscape (hb : opensEscape b rest = true) : b = '%'.toUInt8 ∧
    ∃ h l m n tail, rest = h :: l :: tail ∧ hexValue? h = some m ∧ hexValue? l = some n := by
  obtain ⟨hpercent, hhex⟩ := Bool.and_eq_true_iff.1 hb
  refine ⟨beq_iff_eq.1 hpercent, ?_⟩
  match rest with
  | h :: l :: tail =>
    simp only [startsWithHex, Bool.and_eq_true, Option.isSome_iff_exists] at hhex
    obtain ⟨⟨m, hh⟩, n, hl⟩ := hhex
    exact ⟨h, l, m, n, tail, rfl, hh, hl⟩

/-- Bytes are read from left to right, escape by escape and byte by byte. -/
theorem escape_induction {p : Bytes → Prop} (nil : p [])
    (escape : ∀ {h l m n rest}, hexValue? h = some m → hexValue? l = some n → p rest →
      p ('%'.toUInt8 :: h :: l :: rest))
    (plain : ∀ {b rest}, opensEscape b rest = false → p rest → p (b :: rest)) (bs : Bytes) :
    p bs := by
  match bs with
  | [] => exact nil
  | b :: rest =>
    cases hb : opensEscape b rest with
    | false => exact plain hb (escape_induction nil escape plain rest)
    | true =>
      obtain ⟨rfl, h, l, m, n, tail, rfl, hh, hl⟩ := exists_of_opensEscape hb
      exact escape hh hl (escape_induction nil escape plain tail)
termination_by bs.length

theorem length_decode_le (bs : Bytes) : (decode bs).length ≤ bs.length := by
  induction bs using escape_induction with
  | nil => exact Nat.le_refl _
  | escape hh hl ih =>
    rw [decode_escape hh hl]
    simp only [List.length_cons]
    omega
  | plain hb ih =>
    rw [decode_cons hb]
    exact Nat.succ_le_succ ih

/-- Decoding leaves alone what has no escape, and nothing else. -/
theorem decode_eq_self_iff (bs : Bytes) : decode bs = bs ↔ hasEscape bs = false := by
  induction bs using escape_induction with
  | nil => exact ⟨fun _ => rfl, fun _ => rfl⟩
  | @escape h l m n rest hh hl ih =>
    rw [decode_escape hh hl]
    constructor
    · intro heq
      have hlength := congrArg List.length heq
      have hle := length_decode_le rest
      simp only [List.length_cons] at hlength
      omega
    · intro hnone
      simp [hasEscape, opensEscape, startsWithHex, hh, hl] at hnone
  | plain hb ih => rw [decode_cons hb, hasEscape, hb, Bool.false_or, List.cons_inj_right, ih]

/-! ### Encoding over escapes -/

/-- The encoder leaves escapes as they are, and what it leaves has one byte. -/
structure IsTransparent (plain : UInt8 → Bool) : Prop where
  ascii : ∀ b, plain b = true → b.toNat < 0x80
  percent : plain '%'.toUInt8 = true
  hex : ∀ b, (hexValue? b).isSome = true → plain b = true

theorem hexDigit_spec : ∀ n < 16, (Utf8.encode [hexDigit n]).map hexValue? = [some n] ∧
    hexDigit n ∈ "0123456789ABCDEF".toList := by decide +kernel

theorem encode_ofNat : ∀ n < 128, Utf8.encode [Char.ofNat n] = [n.toUInt8] := by decide +kernel

/-- The bytes that are written for a byte. -/
def written (plain : UInt8 → Bool) (b : UInt8) : Bytes := Utf8.encode (encodeByte plain b)

theorem written_of_plain (hp : IsTransparent plain) (hb : plain b = true) :
    written plain b = [b] := by
  rw [written, encodeByte, if_pos hb, encode_ofNat _ (hp.ascii b hb)]
  simp

theorem exists_written (hb : plain b = false) : ∃ h l, written plain b = ['%'.toUInt8, h, l] ∧
    hexValue? h = some (b.toNat / 16) ∧ hexValue? l = some (b.toNat % 16) := by
  have hlt : b.toNat < 256 := b.toNat_lt
  obtain ⟨h, hh, hh'⟩ := List.map_eq_singleton_iff.1 (hexDigit_spec (b.toNat / 16) (by omega)).1
  obtain ⟨l, hl, hl'⟩ := List.map_eq_singleton_iff.1 (hexDigit_spec (b.toNat % 16) (by omega)).1
  refine ⟨h, l, ?_, hh', hl'⟩
  have hsplit : written plain b = Utf8.encode ['%'] ++ Utf8.encode [hexDigit (b.toNat / 16)] ++
      Utf8.encode [hexDigit (b.toNat % 16)] := by
    rw [written, encodeByte, hb, ← Utf8.encode_append, ← Utf8.encode_append]
    rfl
  rw [hsplit, hh, hl]
  rfl

theorem startsWithHex_written (hp : IsTransparent plain) (bs : Bytes) :
    startsWithHex (bs.flatMap (written plain)) = startsWithHex bs := by
  have hother : ∀ {b}, plain b = false → hexValue? b = none := by
    intro b hb
    cases hv : hexValue? b with
    | none => rfl
    | some n =>
      rw [hp.hex b (by rw [hv]; rfl)] at hb
      cases hb
  match bs with
  | [] => rfl
  | b :: rest =>
    cases hb : plain b with
    | false =>
      obtain ⟨h, l, hw, -⟩ := exists_written hb
      rw [List.flatMap_cons, hw]
      cases rest <;> simp [startsWithHex, hother hb, hexValue?_percent]
    | true =>
      rw [List.flatMap_cons, written_of_plain hp hb]
      match rest with
      | [] => rfl
      | c :: rest =>
        cases hc : plain c with
        | false =>
          obtain ⟨h, l, hw, -⟩ := exists_written hc
          rw [List.flatMap_cons, hw]
          simp [startsWithHex, hother hc, hexValue?_percent]
        | true =>
          rw [List.flatMap_cons, written_of_plain hp hc]
          rfl

theorem decode_written (hp : IsTransparent plain) (bs : Bytes) :
    decode (bs.flatMap (written plain)) = decode bs := by
  induction bs using escape_induction with
  | nil => rfl
  | @escape h l m n rest hh hl ih =>
    have hself : ∀ b, (hexValue? b).isSome = true → written plain b = [b] :=
      fun b hb => written_of_plain hp (hp.hex b hb)
    simp only [List.flatMap_cons, written_of_plain hp hp.percent, hself h (by rw [hh]; rfl),
      hself l (by rw [hl]; rfl), List.cons_append, List.nil_append]
    rw [decode_escape hh hl, decode_escape hh hl, ih]
  | @plain b rest hb ih =>
    rw [List.flatMap_cons, decode_cons hb]
    cases hplain : plain b with
    | false =>
      obtain ⟨h, l, hw, hh, hl⟩ := exists_written hplain
      have hbyte : (b.toNat / 16 * 16 + b.toNat % 16).toUInt8 = b := by
        rw [Nat.div_add_mod']
        simp
      rw [hw, List.cons_append, List.cons_append, List.cons_append, List.nil_append,
        decode_escape hh hl, hbyte, ih]
    | true =>
      have hopens : opensEscape b (rest.flatMap (written plain)) = false := by
        rw [opensEscape, startsWithHex_written hp, ← opensEscape, hb]
      rw [written_of_plain hp hplain, List.cons_append, List.nil_append, decode_cons hopens, ih]

/-- An encoder that leaves escapes alone changes nothing for who decodes. -/
theorem decode_encode (hp : IsTransparent plain) (s : List Char) :
    decode (Utf8.encode (encode plain s)) = decode (Utf8.encode s) := by
  have hbytes : Utf8.encode (encode plain s) = (Utf8.encode s).flatMap (written plain) :=
    List.flatMap_assoc
  rw [hbytes, decode_written hp]

/-- A character of an encoded text belongs to an escape, or it is one of the text. -/
theorem mem_encode (hp : IsTransparent plain) {c : Char} {s : List Char}
    (h : c ∈ encode plain s) : c ∈ "%0123456789ABCDEF".toList ∨ c ∈ s := by
  obtain ⟨b, hb, h⟩ := List.mem_flatMap.1 h
  rw [encodeByte] at h
  split at h
  case isTrue hplain =>
    rw [List.mem_singleton.1 h]
    exact .inr (Utf8.ofNat_mem_of_mem_encode hb (hp.ascii b hplain))
  case isFalse =>
    left
    have hlt : b.toNat < 256 := b.toNat_lt
    have hdigit : ∀ n < 16, hexDigit n ∈ "%0123456789ABCDEF".toList :=
      fun n hn => List.mem_cons_of_mem _ (hexDigit_spec n hn).2
    simp only [List.mem_cons, List.not_mem_nil, or_false] at h
    rcases h with rfl | rfl | rfl
    · decide
    · exact hdigit _ (by omega)
    · exact hdigit _ (by omega)

end Percent
end ShuttleDesk
