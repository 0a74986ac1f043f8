/-
  ShuttleDesk/Proofs/Token/Letters.lean
  =====================================
  Base64 letters: what is written is read again, so different bytes have different
  letters; only letters are written, and nothing but letters is read.
-/
import ShuttleDesk.Token.Base64Url

namespace ShuttleDesk.Base64Url

/-! ### Letters -/

theorem number?_letter : ∀ n < 64, number? (letter n) = some n := by decide +kernel

/-- Reading undoes writing. -/
theorem decode?_encode (bs : Bytes) : decode? (encode bs) = some bs := by
  fun_induction encode bs with
  | case1 => rfl
  | case2 a n =>
    have ha : n < 256 := a.toNat_lt
    have hsum : n / 4 * 64 + n % 4 * 16 = n * 16 := by omega
    have hwhole : n * 16 % 16 = 0 := by omega
    have hbyte : n * 16 / 16 = a.toNat := by omega
    simp only [decode?, number?_letter (n / 4) (by omega), number?_letter (n % 4 * 16) (by omega),
      bind, Option.bind_some, hsum, hwhole, if_true, hbyte]
    simp
  | case3 a b n =>
    have ha := a.toNat_lt
    have hb := b.toNat_lt
    have hsum : (n / 1024 * 64 + n / 16 % 64) * 64 + n % 16 * 4 = n * 4 := by omega
    have hwhole : n * 4 % 4 = 0 := by omega
    have hfirst : n * 4 / 1024 = a.toNat := by omega
    have hsecond : n * 4 / 4 % 256 = b.toNat := by omega
    simp only [decode?, number?_letter (n / 1024) (by omega),
      number?_letter (n / 16 % 64) (by omega), number?_letter (n % 16 * 4) (by omega),
      bind, Option.bind_some, hsum, hwhole, if_true, hfirst, hsecond]
    simp
  | case4 a b c rest n ih =>
    have ha := a.toNat_lt
    have hb := b.toNat_lt
    have hc := c.toNat_lt
    have hsum : ((n / 262144 * 64 + n / 4096 % 64) * 64 + n / 64 % 64) * 64 + n % 64 = n := by
      omega
    have hfirst : n / 65536 = a.toNat := by omega
    have hsecond : n / 256 % 256 = b.toNat := by omega
    have hthird : n % 256 = c.toNat := by omega
    simp only [decode?, number?_letter (n / 262144) (by omega),
      number?_letter (n / 4096 % 64) (by omega), number?_letter (n / 64 % 64) (by omega),
      number?_letter (n % 64) (by omega), ih, bind, Option.bind_some, hsum, hfirst, hsecond, hthird]
    simp

theorem encode_inj {bs bs' : Bytes} : encode bs = encode bs' ↔ bs = bs' := by
  constructor
  · intro h
    exact Option.some.inj (by rw [← decode?_encode bs, h, decode?_encode])
  · exact congrArg encode

theorem exists_letter_of_mem_encode {b : UInt8} {bs : Bytes} (h : b ∈ encode bs) :
    ∃ n < 64, b = letter n := by
  fun_induction encode bs with
  | case1 => cases h
  | case2 a n =>
    have ha : n < 256 := a.toNat_lt
    simp only [List.mem_cons, List.not_mem_nil, or_false] at h
    rcases h with rfl | rfl <;> exact ⟨_, by omega, rfl⟩
  | case3 a b n =>
    have ha := a.toNat_lt
    have hb := b.toNat_lt
    simp only [List.mem_cons, List.not_mem_nil, or_false] at h
    rcases h with rfl | rfl | rfl <;> exact ⟨_, by omega, rfl⟩
  | case4 a b c rest n ih =>
    have ha := a.toNat_lt
    have hb := b.toNat_lt
    have hc := c.toNat_lt
    simp only [List.mem_cons] at h
    rcases h with rfl | rfl | rfl | rfl | h
    · exact ⟨_, by omega, rfl⟩
    · exact ⟨_, by omega, rfl⟩
    · exact ⟨_, by omega, rfl⟩
    · exact ⟨_, by omega, rfl⟩
    · exact ih h

/-- Only letters are read. -/
theorem number?_of_decode? {bs out : Bytes} (h : decode? bs = some out) :
    ∀ b ∈ bs, (number? b).isSome = true := by
  fun_induction decode? bs generalizing out with
  | case1 => simp
  | case2 => cases h
  | case3 a b =>
    obtain ⟨m, hm, h⟩ := Option.bind_eq_some_iff.1 h
    obtain ⟨n, hn, h⟩ := Option.bind_eq_some_iff.1 h
    simp [hm, hn]
  | case4 a b c =>
    obtain ⟨l, hl, h⟩ := Option.bind_eq_some_iff.1 h
    obtain ⟨m, hm, h⟩ := Option.bind_eq_some_iff.1 h
    obtain ⟨n, hn, h⟩ := Option.bind_eq_some_iff.1 h
    simp [hl, hm, hn]
  | case5 a b c d rest ih =>
    obtain ⟨k, hk, h⟩ := Option.bind_eq_some_iff.1 h
    obtain ⟨l, hl, h⟩ := Option.bind_eq_some_iff.1 h
    obtain ⟨m, hm, h⟩ := Option.bind_eq_some_iff.1 h
    obtain ⟨n, hn, h⟩ := Option.bind_eq_some_iff.1 h
    obtain ⟨tail, htail, h⟩ := Option.bind_eq_some_iff.1 h
    simpa [hk, hl, hm, hn] using ih htail

end ShuttleDesk.Base64Url
