/-
  ShuttleDesk/Proofs/Token/RoundTrip.lean
  =======================================
  Tokens that are issued are accepted, with the claims that they were issued for, until
  they expire.  The claims survive being written and read, base64 letters hold no point,
  and so a token falls into the segments that it was made of.

  What is accepted is signed: the last segment is the keyed digest of the two before it,
  under the secret that it is validated with.
-/
import Mathlib.Control.Monad.Basic
import ShuttleDesk.Proofs.Desk.Answers
import ShuttleDesk.Proofs.Json.Written
import ShuttleDesk.Proofs.Token.Letters
import ShuttleDesk.Token.Basic

namespace ShuttleDesk.Token

open Json

variable {c : Claims} {front last token secret : Bytes}

/-! ### Segments -/

theorem splitLast_append (h : point ∉ last) :
    splitLast (front ++ point :: last) = some (front, last) := by
  have hkeep : ∀ b ∈ last.reverse, (b != point) = true := by
    intro b hb
    rw [bne_iff_ne]
    rintro rfl
    exact h (List.mem_reverse.1 hb)
  have hreverse : (front ++ point :: last).reverse = last.reverse ++ point :: front.reverse := by
    simp
  simp only [splitLast, hreverse, List.takeWhile_append_of_pos hkeep,
    List.dropWhile_append_of_pos hkeep]
  simp

theorem of_splitLast (h : splitLast token = some (front, last)) :
    token = front ++ point :: last ∧ point ∉ last := by
  unfold splitLast at h
  have hback := List.takeWhile_append_dropWhile (p := (· != point)) (l := token.reverse)
  cases hdrop : token.reverse.dropWhile (· != point) with
  | nil => simp [hdrop] at h
  | cons b rest =>
    simp only [hdrop, Option.some.injEq, Prod.mk.injEq] at h
    obtain ⟨rfl, rfl⟩ := h
    -- what is dropped begins with the byte that ends the dropping
    have hb : b = point := by
      have hstop := List.head?_dropWhile_not (· != point) token.reverse
      rw [hdrop] at hstop
      simpa using hstop
    rw [hdrop, hb] at hback
    have hfront : token = (token.reverse.takeWhile (· != point) ++ point :: rest).reverse := by
      rw [hback, List.reverse_reverse]
    have hall := List.all_takeWhile (p := (· != point)) (l := token.reverse)
    constructor
    · exact hfront.trans (by simp)
    · intro hmem
      have hkept := List.all_eq_true.1 hall point (List.mem_reverse.1 hmem)
      simp at hkept

theorem point_not_mem_encode (bs : Bytes) : point ∉ Base64Url.encode bs := by
  intro h
  obtain ⟨n, hn, hletter⟩ := Base64Url.exists_letter_of_mem_encode h
  have hnone : ∀ n < 64, point ≠ Base64Url.letter n := by decide +kernel
  exact hnone n hn hletter

/-! ### Claims -/

/-- The numbers of the claims fit the words that they are read into, and the token does not expire
before the clock begins. -/
structure Claims.Fits (c : Claims) : Prop where
  sub : Numeral.Bounds.signed64.contains c.sub = true
  exp : Numeral.Bounds.signed64.contains c.exp = true
  iat : Numeral.Bounds.signed64.contains c.iat = true
  expires : 0 ≤ c.exp

def Claims.members (c : Claims) : List (String × Value) := [
  ("sub", .integer c.sub), ("role", .string c.role), ("exp", .integer c.exp),
  ("iat", .integer c.iat), ("jti", .string c.jti)]

theorem readAlgorithm_headerText : readAlgorithm (Utf8.encode headerText) = .ok .hs256 := by
  decide +kernel

theorem read_chars (h : c.Fits) : Claims.read (Utf8.encode c.chars) = .ok c := by
  have hmembers : TakesAll (Slots.empty claimsShape.fields) c.members
      (some c.sub, some c.role, some c.exp, some c.iat, some c.jti, ()) :=
    .cons (takes_here (by decide) (reads_int64 h.sub)) <|
    .cons (takes_there (by decide) <| takes_here (by decide) (reads_text c.role)) <|
    .cons (takes_there (by decide) <| takes_there (by decide) <| takes_here (by decide)
      (reads_int64 h.exp)) <|
    .cons (takes_there (by decide) <| takes_there (by decide) <| takes_there (by decide) <|
      takes_here (by decide) (reads_int64 h.iat)) <|
    .cons (takes_there (by decide) <| takes_there (by decide) <| takes_there (by decide) <|
      takes_there (by decide) <| takes_here (by decide) (reads_text c.jti)) (.nil _)
  have hread := readWhole_written claimsShape hmembers rfl
  exact congrArg (Except.map Claims.ofValues) hread

theorem reads_moment {n : Int} (hleast : 0 ≤ n)
    (h : Numeral.Bounds.signed64.contains n = true) : Reads moment (.integer n) (some n) := by
  intro rest hrest
  have hnumber := numberRest_ofInt h hrest
  rw [decide_eq_false (by omega)] at hnumber
  obtain ⟨b, bs, hb, hdigit⟩ := exists_encode_digits n.natAbs
  obtain ⟨hblank, hminus, -, -, -, hbracket, hbrace⟩ := ne_of_isDigit hdigit
  unfold moment
  rw [render, Numeral.ofInt, if_neg (by omega), hb, List.cons_append,
    Scan.bind_of_ok (Scan.peekOr_cons hblank), if_neg hbracket, if_neg hbrace, if_neg hminus,
    if_pos hdigit, ← List.cons_append, ← hb, Scan.bind_of_ok hnumber]
  rfl

theorem checked_chars (h : c.Fits) :
    Checked.read (Utf8.encode c.chars) = .ok ⟨some c.exp, false⟩ := by
  have hexp : @Takes checkedShape.fields (none, none, some (), none, none, ())
      ("exp", .integer c.exp) (some (some c.exp), none, some (), none, none, ()) :=
    @takes_here checkedShape.fields.tail (.withDefault "exp" moment none) _ _ _ _ rfl
      (reads_moment h.expires h.exp)
  have hmembers : TakesAll (Slots.empty checkedShape.fields) c.members
      (some (some c.exp), none, some (), none, none, ()) :=
    .cons (takes_there (by decide) <| takes_there (by decide) <| takes_here (by decide)
      (reads_skipValue_integer c.sub)) <|
    .cons (.other rfl (reads_skipValue_string c.role)) <|
    .cons hexp <|
    .cons (.other rfl (reads_skipValue_integer c.iat)) <|
    .cons (.other rfl (reads_skipValue_string c.jti)) (.nil _)
  have hread := readWhole_written checkedShape hmembers rfl
  exact congrArg (Except.map Checked.ofValues) hread

/-! ### Tokens -/

theorem decodePart_encode (bs : Bytes) : decodePart (Base64Url.encode bs) = .ok bs := by
  rw [decodePart, Base64Url.decode?_encode]

/-- A token for claims is accepted under the signature of its first two parts and no other. -/
theorem validate_message {sign : Bytes} {now : Int} (h : c.Fits) (hnow : now ≤ c.exp + leeway)
    (hsign : point ∉ sign) :
    validate secret now (message c ++ point :: sign) =
      if sign = signature secret (message c) then .ok c else .error .invalidSignature := by
  have hfront : splitLast (message c) =
      some (Base64Url.encode (Utf8.encode headerText), Base64Url.encode (Utf8.encode c.chars)) := by
    rw [message, List.append_assoc, List.singleton_append]
    exact splitLast_append (point_not_mem_encode _)
  have haccept : Checked.accept ⟨some c.exp, false⟩ now = .ok () := by
    have : ¬ c.exp < now - leeway := by omega
    simp [Checked.accept, this]
  simp only [validate, splitLast_append hsign, hfront, decodePart_encode, readAlgorithm_headerText,
    read_chars h, checked_chars h, reading, Except.mapError, bind, Except.bind, haccept]
  by_cases hsigned : sign = signature secret (message c)
  · simp [hsigned, pure, Except.pure]
  · simp [hsigned, throw, throwThe, MonadExceptOf.throw]

/-- A token is three segments with points between them. -/
structure IsSegmented (token header payload sign : Bytes) : Prop where
  eq : token = header ++ [point] ++ payload ++ [point] ++ sign
  header : point ∉ header
  payload : point ∉ payload
  sign : point ∉ sign

theorem IsSegmented.splitLast_eq {header payload sign : Bytes}
    (h : IsSegmented token header payload sign) :
    splitLast token = some (header ++ [point] ++ payload, sign) ∧
      splitLast (header ++ [point] ++ payload) = some (header, payload) := by
  constructor
  · rw [h.eq, List.append_assoc (header ++ [point] ++ payload), List.singleton_append]
    exact splitLast_append h.sign
  · rw [List.append_assoc, List.singleton_append]
    exact splitLast_append h.payload

theorem IsSegmented.unique {header payload sign header' payload' sign' : Bytes}
    (h : IsSegmented token header payload sign) (h' : IsSegmented token header' payload' sign') :
    header = header' ∧ payload = payload' ∧ sign = sign' := by
  obtain ⟨hlast, hfirst⟩ := h.splitLast_eq
  obtain ⟨hlast', hfirst'⟩ := h'.splitLast_eq
  rw [hlast, Option.some.injEq, Prod.mk.injEq] at hlast'
  rw [hlast'.1, hfirst', Option.some.injEq, Prod.mk.injEq] at hfirst
  exact ⟨hfirst.1.symm, hfirst.2.symm, hlast'.2⟩

theorem isSegmented_issue (secret : Bytes) (c : Claims) :
    ∃ header payload, message c = header ++ [point] ++ payload ∧
      IsSegmented (issue secret c) header payload (signature secret (message c)) := by
  refine ⟨_, _, rfl, ?_, ?_, ?_, ?_⟩
  · rw [issue]; rfl
  · exact point_not_mem_encode _
  · exact point_not_mem_encode _
  · exact point_not_mem_encode _

theorem point_not_mem_of_decodePart {bs out : Bytes} (h : decodePart bs = .ok out) :
    point ∉ bs := by
  intro hmem
  unfold decodePart at h
  split at h
  · have hletter := Base64Url.number?_of_decode? ‹_› point hmem
    revert hletter
    decide +kernel
  · cases h

/-- What is accepted is signed. -/
theorem isSegmented_of_validate_ok {now : Int} (h : validate secret now token = .ok c) :
    ∃ header payload,
      IsSegmented token header payload (signature secret (header ++ [point] ++ payload)) := by
  unfold validate at h
  cases hlast : splitLast token with
  | none => simp [hlast] at h
  | some segments =>
    obtain ⟨front, sign⟩ := segments
    cases hfirst : splitLast front with
    | none => simp [hlast, hfirst] at h
    | some segments =>
      obtain ⟨header, payload⟩ := segments
      obtain ⟨htoken, hsign⟩ := of_splitLast hlast
      obtain ⟨hfront, hpayload⟩ := of_splitLast hfirst
      simp only [hlast, hfirst] at h
      obtain ⟨decoded, hheader, h⟩ := except_bind_ok_iff.1 h
      obtain ⟨alg, -, h⟩ := except_bind_ok_iff.1 h
      by_cases hsigned : sign = signature secret front
      · have heq : header ++ [point] ++ payload = front := by
          rw [hfront, List.append_assoc, List.singleton_append]
        refine ⟨header, payload, ?_, point_not_mem_of_decodePart hheader, hpayload, ?_⟩
        · rw [heq, htoken, hsigned, List.append_assoc, List.singleton_append]
        · exact point_not_mem_encode _
      · split_ifs at h <;>
        · obtain ⟨_, h, -⟩ := except_bind_ok_iff.1 h
          cases h

/-- A token that is issued is accepted until it expires, and gives back what it was issued for.
Under another secret it is accepted only if the two make the same digest of its first two segments,
and no token is accepted whose last segment is not the digest of the two before it. -/
theorem token_round_trip (secret : Bytes) (user now minutes later : Int) (role id : String)
    (huser : Numeral.Bounds.signed64.contains user = true) (hnow : 0 ≤ now)
    (hminutes : 1 ≤ minutes) (hexp : now + 60 * minutes ≤ 9223372036854775807)
    (hlater : later ≤ now + 60 * minutes + leeway) :
    let c := claimsFor user role now minutes id
    -- both numbers that issuing computes fit
    (Numeral.Bounds.signed64.contains (minutes * 60) = true ∧
      Numeral.Bounds.signed64.contains c.exp = true) ∧
    (validate secret later (issue secret c) = .ok c ∧
      c.sub = user ∧ c.role = role ∧ c.exp - c.iat = 60 * minutes) ∧
    (∃ header payload,
      IsSegmented (issue secret c) header payload
        (signature secret (header ++ [point] ++ payload)) ∧
      ∀ other, validate other later (issue secret c) =
        if Sha256.keyed other (header ++ [point] ++ payload) =
            Sha256.keyed secret (header ++ [point] ++ payload)
        then .ok c else .error .invalidSignature) ∧
    (∀ other moment token header payload sign, IsSegmented token header payload sign →
      sign ≠ signature other (header ++ [point] ++ payload) →
      ∃ fault, validate other moment token = .error fault) ∧
    ∀ other moment token c', validate other moment token = .ok c' → ∃ header payload,
      IsSegmented token header payload (signature other (header ++ [point] ++ payload)) := by
  intro c
  have hlife : c.exp = now + 60 * minutes := by
    show now + minutes * 60 = now + 60 * minutes
    omega
  have hfits : c.Fits := by
    refine ⟨huser, ?_, ?_, ?_⟩
    · rw [hlife, contains_signed64_iff]
      omega
    · rw [contains_signed64_iff]
      show _ ≤ now ∧ now ≤ _
      omega
    · omega
  have hvalid : ∀ other, validate other later (issue secret c) =
      if Sha256.keyed other (message c) = Sha256.keyed secret (message c) then .ok c
      else .error .invalidSignature := by
    intro other
    have hsign : point ∉ signature secret (message c) := point_not_mem_encode _
    rw [issue, List.append_assoc, List.singleton_append,
      validate_message hfits (by omega) hsign]
    simp only [signature, Base64Url.encode_inj, eq_comm]
  refine ⟨⟨?_, hfits.exp⟩, ⟨?_, rfl, rfl, ?_⟩, ?_, ?_, fun _ _ _ _ => isSegmented_of_validate_ok⟩
  · rw [contains_signed64_iff]
    omega
  · rw [hvalid, if_pos rfl]
  · show c.exp - now = 60 * minutes
    omega
  · obtain ⟨header, payload, hmessage, hsegments⟩ := isSegmented_issue secret c
    rw [hmessage] at hsegments hvalid
    exact ⟨header, payload, hsegments, hvalid⟩
  · intro other moment token header payload sign hsegments hsign
    cases hvalidate : validate other moment token with
    | error fault => exact ⟨fault, rfl⟩
    | ok claims =>
      obtain ⟨header', payload', hsigned⟩ := isSegmented_of_validate_ok hvalidate
      obtain ⟨rfl, rfl, hsign'⟩ := hsegments.unique hsigned
      exact absurd hsign' hsign

/-- A role with a quotation mark, a line break and a letter that takes three bytes. -/
theorem token_round_trip_quoted :
    let c := claimsFor 7 "甲\"\n" 1767225600 15 "t"
    let secret := Utf8.ofString "secret"
    (validate secret 1767225660 (issue secret c) = .ok c ∧
      c.sub = 7 ∧ c.role = "甲\"\n" ∧ c.exp - c.iat = 60 * 15) ∧
    validate (Utf8.ofString "other") 1767225660 (issue secret c) = .error .invalidSignature ∧
    ∃ header payload, IsSegmented (issue secret c) header payload
      (signature secret (header ++ [point] ++ payload)) := by
  intro c secret
  obtain ⟨-, hvalid, ⟨header, payload, hsegments, hother⟩, -, -⟩ :=
    token_round_trip secret 7 1767225600 15 1767225660 "甲\"\n" "t" (by decide) (by decide)
      (by decide) (by decide) (by decide)
  refine ⟨hvalid, ?_, header, payload, hsegments⟩
  obtain ⟨header', payload', hmessage, hsegments'⟩ := isSegmented_issue secret c
  obtain ⟨rfl, rfl, -⟩ := hsegments.unique hsegments'
  rw [hother, ← hmessage, if_neg (by decide +kernel)]

end ShuttleDesk.Token
