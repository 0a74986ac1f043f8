/-
  ShuttleDesk/Proofs/Calendar/Reading.lean
  ========================================
  Which texts are read as dates and as date-times, and as which.

  A text is read exactly if it has a form whose numbers name a day, or a time of a day, that
  exists, and this is what it is read as.  Each step of the reader takes one part of the form
  and leaves the rest; that it takes as many digits as it may is what a number that ends
  before the rest means.  The bounds that the reader checks number by number are no further
  condition, since the numbers of a day that exists keep them.
-/
import ShuttleDesk.Proofs.Calendar.DayCount
import ShuttleDesk.Proofs.Calendar.Forms
import ShuttleDesk.Refusal
import Mathlib.Data.List.Basic

namespace ShuttleDesk

open Text (Stops)

namespace Calendar

variable {s rest : List Char}

/-! ### The reader, step by step -/

namespace Reading

variable {α β : Type} {a : α} {b : β} {s' : List Char} {u : Unit}

theorem bind_ok_iff {x : Scan α} {k : α → Scan β} :
    (x >>= k) s = .ok (b, s') ↔ ∃ a s₁, x s = .ok (a, s₁) ∧ k a s₁ = .ok (b, s') := by
  have hrun : (x >>= k) s = (match x s with | .ok (a, s₁) => k a s₁ | .error e => .error e) := by
    change (x s >>= fun p => k p.1 p.2) = _
    rcases x s with e | ⟨a, s₁⟩ <;> rfl
  rw [hrun]
  rcases x s with e | ⟨a, s₁⟩
  · simp
  · simp only [Except.ok.injEq, Prod.mk.injEq]
    constructor
    · intro h
      exact ⟨a, s₁, ⟨rfl, rfl⟩, h⟩
    · rintro ⟨_, _, ⟨rfl, rfl⟩, h⟩
      exact h

theorem bind_of_ok {x : Scan α} {k : α → Scan β} (h : x s = .ok (a, s')) :
    (x >>= k) s = k a s' := by
  change (x s >>= fun p => k p.1 p.2) = _
  rw [h]
  rfl

theorem pure_ok_iff {a' : α} : (pure a : Scan α) s = .ok (a', s') ↔ a' = a ∧ s' = s := by
  change Except.ok (a, s) = .ok (a', s') ↔ _
  rw [Except.ok.injEq, Prod.mk.injEq, eq_comm, @eq_comm _ s]

theorem blanks_ok_iff : blanks s = .ok (u, rest) ↔ rest = Text.trimStart s := by
  rw [blanks, Except.ok.injEq, Prod.mk.injEq, eq_comm (a := rest)]
  simp

theorem mark_ok_iff {c : Char} : mark c s = .ok (u, rest) ↔ s = c :: rest := by
  cases s with
  | nil => simp [mark]
  | cons d s => by_cases h : d = c <;> simp [mark, h]

theorem mark_self {c : Char} : mark c (c :: rest) = .ok ((), rest) := mark_ok_iff.2 rfl

theorem within_ok_iff {bounds : Numeral.Bounds} {n : Int} :
    within bounds n s = .ok (u, rest) ↔ bounds.contains n = true ∧ rest = s := by
  unfold within
  by_cases h : bounds.contains n = true <;> simp [h, pure_ok_iff, fail]

theorem finish_ok_iff : finish s = .ok (u, rest) ↔ s = [] ∧ rest = s := by
  cases s with
  | nil => simp [finish, eq_comm]
  | cons c s => simp [finish]

theorem existing_ok_iff {x : Option α} : existing x s = .ok (a, rest) ↔ x = some a ∧ rest = s := by
  cases x with
  | none => simp [existing, fail]
  | some b =>
    change (pure b : Scan α) s = _ ↔ _
    rw [pure_ok_iff, Option.some.injEq, eq_comm]

/-! ### Numbers -/

theorem isDigit_eq (c : Char) : isDigit c = c.isDigit := by
  rw [Bool.eq_iff_iff, isDigit, Numeral.digit?, Char.isDigit, Bool.and_eq_true, decide_eq_true_eq,
    decide_eq_true_eq]
  by_cases h : '0' ≤ c ∧ c ≤ '9'
  · rw [if_pos h]
    exact ⟨fun _ => h, fun _ => rfl⟩
  · rw [if_neg h]
    exact ⟨nofun, fun hc => absurd hc h⟩

theorem value_eq {ds : List Char} (h : ∀ c ∈ ds, c.isDigit = true) :
    value ds = Nat.ofDigitChars 10 ds 0 := by
  refine List.foldl_ext _ _ 0 fun n c hc => ?_
  obtain ⟨d, hd⟩ := Option.isSome_iff_exists.1 ((isDigit_eq c).trans (h c hc))
  unfold Numeral.digit? at hd ⊢
  split at hd
  next hc => rw [if_pos hc, Option.getD_some, Nat.mul_comm]
  next => cases hd

theorem digitsAmong_append {ds more : List Char} {n : Nat} (hds : IsNumeral ds n)
    (hmore : Stops Char.isDigit more) (back : List Char) :
    digitsAmong (ds ++ more) (ds ++ more ++ back) =
      if greatestNumber < n then .error .outOfRange else .ok (n, more ++ back) := by
  obtain ⟨c, cs, hcons, -⟩ := hds.exists_cons
  have htake : (ds ++ more).takeWhile isDigit = ds := by
    rw [funext isDigit_eq]
    exact Text.takeWhile_append_of_stops hds.digits hmore
  have hdrop : (ds ++ more ++ back).drop ds.length = more ++ back := by
    rw [List.append_assoc, List.drop_left]
  have hvalue : value ds = n := (value_eq hds.digits).trans hds.value
  unfold digitsAmong
  rw [htake]
  dsimp only
  rw [hdrop, hvalue]
  simp [hcons]

theorem digitsAmong_ok_iff (front back : List Char) {n : Nat} :
    digitsAmong front (front ++ back) = .ok (n, rest) ↔
      ∃ ds more, front = ds ++ more ∧ rest = more ++ back ∧ IsNumeral ds n ∧
        Stops Char.isDigit more ∧ n ≤ greatestNumber := by
  constructor
  · intro h
    obtain ⟨ds, hds⟩ : ∃ ds, ds = front.takeWhile Char.isDigit := ⟨_, rfl⟩
    have hfront : front = ds ++ front.dropWhile Char.isDigit := by
      rw [hds, List.takeWhile_append_dropWhile]
    have hmore : Stops Char.isDigit (front.dropWhile Char.isDigit) := Text.stops_dropWhile _ _
    by_cases hempty : ds = []
    · -- no digit in front
      unfold digitsAmong at h
      rw [funext isDigit_eq, ← hds, hempty] at h
      cases hs : front ++ back <;> rw [hs] at h <;> cases h
    · have hnumeral : IsNumeral ds (Nat.ofDigitChars 10 ds 0) := by
        refine ⟨hempty, fun c hc => ?_, rfl⟩
        rw [hds] at hc
        exact List.mem_takeWhile_imp hc
      rw [hfront, digitsAmong_append hnumeral hmore] at h
      split at h
      · cases h
      · cases h
        exact ⟨ds, _, hfront, rfl, hnumeral, hmore, by omega⟩
  · rintro ⟨ds, more, rfl, rfl, hds, hmore, hsmall⟩
    rw [digitsAmong_append hds hmore, if_neg (by omega)]

theorem unbounded_ok_iff {n : Nat} :
    unbounded s = .ok (n, rest) ↔
      ∃ ds, s = ds ++ rest ∧ IsNumeral ds n ∧ Stops Char.isDigit rest ∧ n ≤ greatestNumber := by
  have hfront : digitsAmong s s = digitsAmong s (s ++ []) := by rw [List.append_nil]
  rw [unbounded, hfront, digitsAmong_ok_iff]
  simp only [List.append_nil]
  constructor
  · rintro ⟨ds, more, hs, rfl, hrest⟩
    exact ⟨ds, hs, hrest⟩
  · rintro ⟨ds, hs, hrest⟩
    exact ⟨ds, rest, hs, rfl, hrest⟩

/-- A number of limited length ends there, or before a character that is no digit. -/
theorem upTo_ok_iff {width n : Nat} :
    upTo width s = .ok (n, rest) ↔
      ∃ ds, s = ds ++ rest ∧ IsNumeral ds n ∧ ds.length ≤ width ∧
        (ds.length = width ∨ Stops Char.isDigit rest) ∧ n ≤ greatestNumber := by
  have hfront : digitsAmong (s.take width) s
      = digitsAmong (s.take width) (s.take width ++ s.drop width) := by rw [List.take_append_drop]
  rw [upTo, hfront, digitsAmong_ok_iff]
  constructor
  · rintro ⟨ds, more, htake, rfl, hds, hmore, hsmall⟩
    have hlength : ds.length + more.length = min width s.length := by
      rw [← List.length_append, ← htake, List.length_take]
    refine ⟨ds, ?_, hds, by omega, ?_, hsmall⟩
    · rw [← List.append_assoc, ← htake, List.take_append_drop]
    · cases more with
      | cons c more => exact .inr (Text.stops_cons.2 (Text.stops_cons.1 hmore))
      | nil =>
        by_cases hshort : s.length ≤ width
        · rw [List.drop_eq_nil_of_le hshort]
          exact .inr Text.stops_nil
        · rw [List.length_nil] at hlength
          exact .inl (by omega)
  · rintro ⟨ds, rfl, hds, hle, hend, hsmall⟩
    refine ⟨ds, rest.take (width - ds.length), ?_, ?_, hds, ?_, hsmall⟩
    · rw [List.take_append, List.take_of_length_le hle]
    · rw [List.drop_append, List.drop_eq_nil_of_le hle, List.nil_append, List.take_append_drop]
    · rcases hend with hfull | hstops
      · rw [hfull, Nat.sub_self, List.take_zero]
        exact Text.stops_nil
      · cases hwidth : width - ds.length with
        | zero => exact Text.stops_nil
        | succ k =>
          cases rest with
          | nil => exact Text.stops_nil
          | cons c rest => exact Text.stops_cons.2 (Text.stops_cons.1 hstops)

theorem small_ok_iff {least greatest n : Nat} (hfit : greatest ≤ greatestNumber) :
    small least greatest s = .ok (n, rest) ↔
      ∃ f : Field, s = f.text ++ rest ∧ f.Reads n ∧ f.EndsBefore rest ∧ least ≤ n ∧ n ≤ greatest := by
  have hbounds : Numeral.Bounds.contains ⟨least, greatest⟩ n = true ↔ least ≤ n ∧ n ≤ greatest := by
    simp [Numeral.Bounds.contains]
  unfold small
  simp only [bind_ok_iff, blanks_ok_iff, upTo_ok_iff, within_ok_iff, pure_ok_iff]
  constructor
  · rintro ⟨-, -, rfl, _, _, ⟨ds, hs, hds, hle, hend, -⟩, -, _, ⟨hin, rfl⟩, rfl, rfl⟩
    refine ⟨⟨s.takeWhile Text.isBlank, ds⟩, ?_, ⟨fun c hc => ?_, hds, hle⟩, hend, hbounds.1 hin⟩
    · rw [Field.text, List.append_assoc, ← hs, Text.trimStart, List.takeWhile_append_dropWhile]
    · exact List.mem_takeWhile_imp hc
  · rintro ⟨f, rfl, hf, hend, hin⟩
    refine ⟨(), _, rfl, n, rest, ⟨f.digits, ?_, hf.numeral, hf.length, hend, by omega⟩, (), rest,
      ⟨hbounds.2 hin, rfl⟩, rfl, rfl⟩
    rw [Field.text, List.append_assoc, Text.trimStart]
    exact Text.dropWhile_append_of_stops hf.blanks (hf.numeral.stops_isBlank rest)

theorem small_field {least greatest n : Nat} (hfit : greatest ≤ greatestNumber) {f : Field}
    (hf : f.Reads n) (hend : f.EndsBefore rest) (hin : least ≤ n ∧ n ≤ greatest) :
    small least greatest (f.text ++ rest) = .ok (n, rest) :=
  (small_ok_iff hfit).2 ⟨f, rfl, hf, hend, hin⟩

theorem sign_ok_iff {sg : Option Bool} :
    sign s = .ok (sg, rest) ↔
      s = signText sg ++ rest ∧ (sg = none → ∀ c ∈ rest.head?, c ≠ '-' ∧ c ≠ '+') := by
  constructor
  · intro h
    unfold sign at h
    split at h <;> cases h
    · exact ⟨rfl, nofun⟩
    · exact ⟨rfl, nofun⟩
    next hminus hplus =>
      refine ⟨rfl, fun _ c hc => ?_⟩
      obtain ⟨cs, rfl⟩ := List.head?_eq_some_iff.1 hc
      exact ⟨fun h => hminus cs (by rw [h]), fun h => hplus cs (by rw [h])⟩
  · rintro ⟨rfl, hunsigned⟩
    rcases sg with _ | _ | _
    · change sign rest = _
      unfold sign
      split
      · exact absurd rfl (hunsigned rfl '-' rfl).1
      · exact absurd rfl (hunsigned rfl '+' rfl).2
      · rfl
    · rfl
    · rfl

theorem sign_numeral {ds : List Char} {n : Nat} (hds : IsNumeral ds n) (sg : Option Bool)
    (rest : List Char) : sign (signText sg ++ (ds ++ rest)) = .ok (sg, ds ++ rest) := by
  obtain ⟨c, cs, rfl, hc⟩ := hds.exists_cons
  refine sign_ok_iff.2 ⟨rfl, fun _ d hd => ?_⟩
  rw [List.cons_append, List.head?_cons, Option.mem_some_iff] at hd
  subst hd
  constructor
  · rintro rfl
    cases hc
  · rintro rfl
    cases hc

/-- After a sign the year is all the digits there are, without one at most four. -/
theorem of_year_ok {y : Int} (h : year s = .ok (y, rest)) :
    ∃ sg ds n, Text.trimStart s = signText sg ++ (ds ++ rest) ∧ IsNumeral ds n ∧
      y = signed sg n ∧ (sg = none → ds.length ≤ 4) := by
  unfold year at h
  simp only [bind_ok_iff, blanks_ok_iff] at h
  obtain ⟨-, -, rfl, sg, s₁, hsign, h⟩ := h
  obtain ⟨hs, -⟩ := sign_ok_iff.1 hsign
  rcases sg with _ | negative
  · simp only [bind_ok_iff, upTo_ok_iff, pure_ok_iff] at h
    obtain ⟨n, _, ⟨ds, rfl, hds, hle, -⟩, rfl, rfl⟩ := h
    exact ⟨none, ds, n, hs, hds, rfl, fun _ => hle⟩
  · simp only [bind_ok_iff, unbounded_ok_iff, pure_ok_iff, within_ok_iff] at h
    obtain ⟨n, _, ⟨ds, rfl, hds, -⟩, _, _, ⟨rfl, rfl⟩, -, _, ⟨-, rfl⟩, rfl, rfl⟩ := h
    refine ⟨some negative, ds, n, hs, hds, ?_, nofun⟩
    cases negative <;> rfl

theorem year_ok {sg : Option Bool} {ds : List Char} {n : Nat} (hds : IsNumeral ds n)
    (hle : sg = none → ds.length ≤ 4) (hrest : Stops Char.isDigit rest) (hsmall : n ≤ 2147483647) :
    year (signText sg ++ (ds ++ rest)) = .ok (signed sg n, rest) := by
  have hstart : Stops Text.isBlank (signText sg ++ (ds ++ rest)) := hds.stops_signed sg rest
  have hfit : n ≤ greatestNumber := hsmall.trans (by decide)
  unfold year
  simp only [bind_ok_iff, blanks_ok_iff]
  refine ⟨(), _, (Text.trimStart_eq_self hstart).symm, sg, _, sign_numeral hds sg rest, ?_⟩
  rcases sg with _ | negative
  · simp only [bind_ok_iff, upTo_ok_iff, pure_ok_iff]
    exact ⟨n, rest, ⟨ds, rfl, hds, hle rfl, .inr hrest, hfit⟩, rfl, rfl⟩
  · have hbounds : Numeral.Bounds.signed32.contains (if negative then -(n : Int) else n) = true := by
      cases negative <;> simp [Numeral.Bounds.contains, Numeral.Bounds.signed32] <;> omega
    simp only [bind_ok_iff, unbounded_ok_iff, pure_ok_iff, within_ok_iff]
    refine ⟨n, rest, ⟨ds, rfl, hds, hrest, hfit⟩, _, rest, ⟨rfl, rfl⟩, (), rest, ⟨hbounds, rfl⟩,
      ?_, rfl⟩
    cases negative <;> rfl

/-! ### Dates and times -/

theorem of_dateParts_ok {y : Int} {m d : Nat} (h : dateParts s = .ok ((y, m, d), rest)) :
    ∃ f : DateForm, Text.trimStart s = f.text ++ rest ∧ f.Names y m d ∧ f.day.EndsBefore rest := by
  unfold dateParts at h
  simp only [bind_ok_iff, mark_ok_iff, small_ok_iff (by decide : 12 ≤ greatestNumber),
    small_ok_iff (by decide : 31 ≤ greatestNumber), pure_ok_iff, Prod.mk.injEq] at h
  obtain ⟨_, _, hyear, -, _, rfl, _, _, ⟨month, rfl, hmonth, -⟩, -, _, rfl, _, _,
    ⟨day, rfl, hday, hend, -⟩, ⟨rfl, rfl, rfl⟩, rfl⟩ := h
  obtain ⟨sg, ds, n, hs, hds, rfl, hle⟩ := of_year_ok hyear
  refine ⟨⟨sg, ds, month, day⟩, ?_, ⟨⟨n, hds, rfl⟩, hle, hmonth, hday⟩, hend⟩
  rw [hs, DateForm.text]
  simp only [List.append_assoc, List.cons_append]

theorem dateParts_ok {f : DateForm} {y : Int} {m d : Nat} (hf : f.Names y m d)
    (hday : IsDay y m d) (hend : f.day.EndsBefore rest) :
    dateParts (f.text ++ rest) = .ok ((y, m, d), rest) := by
  obtain ⟨n, hn, rfl⟩ := hf.year
  obtain ⟨⟨hfirst, hlast⟩, hmonth, hday⟩ := hday
  have hsmall : n ≤ 2147483647 := by
    have habs := natAbs_signed f.sign n
    unfold firstYear at hfirst
    unfold lastYear at hlast
    omega
  have hdays := daysIn_le (signed f.sign n) m
  have hmark : ∀ rest, f.month.EndsBefore ('-' :: rest) :=
    fun rest => .inr (Text.stops_cons.2 rfl)
  have htext : f.text ++ rest = signText f.sign ++ (f.year ++ '-' ::
      (f.month.text ++ '-' :: (f.day.text ++ rest))) := by
    simp only [DateForm.text, List.append_assoc, List.cons_append]
  unfold dateParts
  rw [htext, bind_of_ok (year_ok hn hf.length (Text.stops_cons.2 rfl) hsmall), bind_of_ok mark_self,
    bind_of_ok (small_field (by decide) hf.month (hmark _) hmonth), bind_of_ok mark_self,
    bind_of_ok (small_field (by decide) hf.day hend ⟨hday.1, by omega⟩)]
  rfl

theorem timeParts_ok_iff {h m sec : Nat} :
    timeParts s = .ok ((h, m, sec), rest) ↔ IsTime h m sec ∧
      ∃ hour minute second : Field,
        s = hour.text ++ ':' :: (minute.text ++ ':' :: (second.text ++ rest)) ∧
        hour.Reads h ∧ minute.Reads m ∧ second.Reads sec ∧ second.EndsBefore rest := by
  unfold timeParts
  constructor
  · simp only [bind_ok_iff, mark_ok_iff, small_ok_iff (by decide : 23 ≤ greatestNumber),
      small_ok_iff (by decide : 59 ≤ greatestNumber),
      small_ok_iff (by decide : 60 ≤ greatestNumber), pure_ok_iff, Prod.mk.injEq]
    rintro ⟨_, _, ⟨hour, rfl, hhour, -, -, hh⟩, -, _, rfl, _, _, ⟨minute, rfl, hminute, -, -, hm⟩, -,
      _, rfl, _, _, ⟨second, rfl, hsecond, hend, -, hs⟩, ⟨rfl, rfl, rfl⟩, rfl⟩
    exact ⟨⟨hh, hm, hs⟩, hour, minute, second, rfl, hhour, hminute, hsecond, hend⟩
  · rintro ⟨⟨hh, hm, hs⟩, hour, minute, second, rfl, hhour, hminute, hsecond, hend⟩
    have hmark : ∀ (f : Field) rest, f.EndsBefore (':' :: rest) :=
      fun f rest => .inr (Text.stops_cons.2 rfl)
    rw [bind_of_ok (small_field (by decide) hhour (hmark _ _) ⟨Nat.zero_le _, hh⟩),
      bind_of_ok mark_self,
      bind_of_ok (small_field (by decide) hminute (hmark _ _) ⟨Nat.zero_le _, hm⟩),
      bind_of_ok mark_self,
      bind_of_ok (small_field (by decide) hsecond hend ⟨Nat.zero_le _, hs⟩)]
    rfl

/-- The hour may have blanks in front anyway. -/
theorem timeParts_trimStart (s : List Char) : timeParts (Text.trimStart s) = timeParts s := by
  have hblanks : blanks (Text.trimStart s) = blanks s := by
    have hstart : Stops Text.isBlank (Text.trimStart s) := Text.stops_dropWhile _ _
    rw [blanks, blanks, Text.trimStart_eq_self hstart]
  simp only [timeParts, small, bind, StateT.bind, hblanks]

theorem ofParts?_eq_some_iff {y : Int} {m day : Nat} {d : Date} :
    Date.ofParts? y m day = some d ↔ y = d.year ∧ m = d.month ∧ day = d.day := by
  unfold Date.ofParts?
  constructor
  · intro h
    split at h <;> cases h
    exact ⟨rfl, rfl, rfl⟩
  · rintro ⟨rfl, rfl, rfl⟩
    rw [dif_pos d.isDay]

theorem date_ok_iff {d : Date} (hs : Stops Text.isBlank s) :
    date s = .ok (d, rest) ↔
      rest = [] ∧ ∃ f : DateForm, f.text = s ∧ f.Names d.year d.month d.day := by
  unfold date
  simp only [bind_ok_iff]
  constructor
  · rintro ⟨⟨y, m, day⟩, _, hparts, h⟩
    simp only [finish_ok_iff, existing_ok_iff] at h
    obtain ⟨-, _, ⟨rfl, rfl⟩, hexists, rfl⟩ := h
    obtain ⟨rfl, rfl, rfl⟩ := ofParts?_eq_some_iff.1 hexists
    obtain ⟨f, htext, hf, -⟩ := of_dateParts_ok hparts
    rw [Text.trimStart_eq_self hs, List.append_nil] at htext
    exact ⟨rfl, f, htext.symm, hf⟩
  · rintro ⟨rfl, f, rfl, hf⟩
    have hparts := dateParts_ok hf d.isDay (.inr Text.stops_nil)
    rw [List.append_nil] at hparts
    refine ⟨_, _, hparts, ?_⟩
    simp only [finish_ok_iff, existing_ok_iff]
    exact ⟨(), [], ⟨trivial, rfl⟩, ofParts?_eq_some_iff.2 ⟨rfl, rfl, rfl⟩, rfl⟩

theorem dateTime_ok_iff {t : DateTime} (hs : Stops Text.isBlank s) :
    dateTime s = .ok (t, rest) ↔ rest = [] ∧ ∃ f : DateTimeForm, f.text = s ∧ f.Reads t := by
  unfold dateTime
  simp only [bind_ok_iff]
  constructor
  · rintro ⟨⟨y, mo, d⟩, _, hparts, h⟩
    simp only [blanks_ok_iff] at h
    obtain ⟨-, _, rfl, ⟨hr, mi, sec⟩, _, htime, h⟩ := h
    simp only [finish_ok_iff, existing_ok_iff, Option.bind_eq_bind, Option.bind_eq_some_iff] at h
    obtain ⟨-, _, ⟨rfl, rfl⟩, ⟨date, hdate, hexists⟩, rfl⟩ := h
    obtain ⟨rfl, rfl, rfl⟩ := ofParts?_eq_some_iff.1 hdate
    unfold DateTime.ofParts? at hexists
    split at hexists <;> cases hexists
    rw [timeParts_trimStart, timeParts_ok_iff] at htime
    obtain ⟨-, hour, minute, second, rfl, hhour, hminute, hsecond, -⟩ := htime
    obtain ⟨f, htext, hf, hend⟩ := of_dateParts_ok hparts
    rw [Text.trimStart_eq_self hs, List.append_nil] at htext
    exact ⟨rfl, ⟨f, hour, minute, second⟩, htext.symm, hf, (Field.endsBefore_hour_iff hhour).1 hend, hhour,
      hminute, hsecond⟩
  · rintro ⟨rfl, f, rfl, hf⟩
    refine ⟨_, _, dateParts_ok hf.date t.date.isDay ((Field.endsBefore_hour_iff hf.hour).2 hf.apart), ?_⟩
    simp only [blanks_ok_iff]
    refine ⟨(), _, rfl, (t.hour, t.minute, t.second), [], ?_, ?_⟩
    · rw [timeParts_trimStart, timeParts_ok_iff]
      refine ⟨t.isTime, f.hour, f.minute, f.second, ?_, hf.hour, hf.minute, hf.second,
        .inr Text.stops_nil⟩
      rw [List.append_nil]
    · simp only [finish_ok_iff, existing_ok_iff, Option.bind_eq_bind, Option.bind_eq_some_iff]
      refine ⟨(), [], ⟨trivial, rfl⟩, ⟨t.date, ofParts?_eq_some_iff.2 ⟨rfl, rfl, rfl⟩, ?_⟩, rfl⟩
      rw [DateTime.ofParts?, dif_pos t.isTime]

theorem ofText_ok_iff {r : Scan α} {raw : String} :
    ofText r raw = .ok a ↔ ∃ rest, r (Text.trim raw.toList) = .ok (a, rest) := by
  unfold ofText
  rcases r (Text.trim raw.toList) with e | ⟨a', rest⟩
  · simp [Except.map]
  · simp [Except.map]

end Reading

/-! ### Which texts are read -/

theorem Date.parse_ok_iff {raw : String} {d : Date} :
    Date.parse raw = .ok d ↔
      ∃ f : DateForm, f.text = Text.trim raw.toList ∧ f.Names d.year d.month d.day := by
  rw [Date.parse, Reading.ofText_ok_iff]
  simp only [Reading.date_ok_iff (Text.stops_trim _), exists_eq_left]

theorem DateTime.parse_ok_iff {raw : String} {t : DateTime} :
    DateTime.parse raw = .ok t ↔
      ∃ f : DateTimeForm, f.text = Text.trim raw.toList ∧ f.Reads t := by
  rw [DateTime.parse, Reading.ofText_ok_iff]
  simp only [Reading.dateTime_ok_iff (Text.stops_trim _), exists_eq_left]

end Calendar

/-! ### Readings of inputs -/

open Calendar

variable {field raw : String}

theorem readDate_ok_iff {d : Date} : readDate field raw = .ok d ↔ Date.parse raw = .ok d := by
  rw [readDate]
  cases Date.parse raw <;> simp

theorem readDateTime_ok_iff {t : DateTime} :
    readDateTime field raw = .ok t ↔ DateTime.parse raw = .ok t := by
  rw [readDateTime]
  cases DateTime.parse raw <;> simp

/-- Where there is one form at most, there is no documented one if it is another. -/
theorem exists_and_not_exists_iff {α : Type} {P documented : α → Prop}
    (hone : ∀ f g, P f → P g → f = g) :
    ((∃ f, P f) ∧ ¬ ∃ f, documented f ∧ P f) ↔ ∃ f, ¬ documented f ∧ P f := by
  constructor
  · rintro ⟨⟨f, hf⟩, hnone⟩
    exact ⟨f, fun hdocumented => hnone ⟨f, hdocumented, hf⟩, hf⟩
  · rintro ⟨f, hother, hf⟩
    refine ⟨⟨f, hf⟩, ?_⟩
    rintro ⟨g, hdocumented, hg⟩
    exact hother (hone g f hg hf ▸ hdocumented)

/-- A text is read exactly if it has a form that names a day, or a time, that exists; the form is
the only one and the day is the one that it names.  What is not read is refused with the form that
was wanted.  The documented forms are among the forms, and whatever is read beside them is a text
of another form. -/
theorem read_iff_form (field raw : String) :
    (∀ d, readDate field raw = .ok d ↔ ∃! f : DateForm,
      f.text = Text.trim raw.toList ∧ f.Names d.year d.month d.day) ∧
    (∀ t, readDateTime field raw = .ok t ↔ ∃! f : DateTimeForm,
      f.text = Text.trim raw.toList ∧ f.Reads t) ∧
    ((∃ d, readDate field raw = .ok d) ∨ ∃ flaw,
      readDate field raw = .error (.validation (misreadText field "YYYY-MM-DD" raw flaw))) ∧
    ((∃ t, readDateTime field raw = .ok t) ∨ ∃ flaw, readDateTime field raw =
      .error (.validation (misreadText field "YYYY-MM-DD HH:MM:SS" raw flaw))) ∧
    (∀ d, (readDate field raw = .ok d ∧ ¬ ∃ f : DateForm, f.IsDocumented ∧
        f.text = Text.trim raw.toList ∧ f.Names d.year d.month d.day) ↔
      ∃ f : DateForm, ¬ f.IsDocumented ∧
        f.text = Text.trim raw.toList ∧ f.Names d.year d.month d.day) ∧
    (∀ t, (readDateTime field raw = .ok t ∧ ¬ ∃ f : DateTimeForm, f.IsDocumented ∧
        f.text = Text.trim raw.toList ∧ f.Reads t) ↔
      ∃ f : DateTimeForm, ¬ f.IsDocumented ∧ f.text = Text.trim raw.toList ∧ f.Reads t) := by
  have hdate : ∀ d : Date, ∀ f g : DateForm,
      f.text = Text.trim raw.toList ∧ f.Names d.year d.month d.day →
      g.text = Text.trim raw.toList ∧ g.Names d.year d.month d.day → f = g :=
    fun d f g hf hg => hf.2.eq_of_text_eq hg.2 (hf.1.trans hg.1.symm)
  have htime : ∀ t : DateTime, ∀ f g : DateTimeForm,
      f.text = Text.trim raw.toList ∧ f.Reads t →
      g.text = Text.trim raw.toList ∧ g.Reads t → f = g :=
    fun t f g hf hg => hf.2.eq_of_text_eq hg.2 (hf.1.trans hg.1.symm)
  refine ⟨fun d => ?_, fun t => ?_, ?_, ?_, fun d => ?_, fun t => ?_⟩
  · rw [readDate_ok_iff, Date.parse_ok_iff]
    exact ⟨fun ⟨f, hf⟩ => ⟨f, hf, fun g hg => hdate d g f hg hf⟩, ExistsUnique.exists⟩
  · rw [readDateTime_ok_iff, DateTime.parse_ok_iff]
    exact ⟨fun ⟨f, hf⟩ => ⟨f, hf, fun g hg => htime t g f hg hf⟩, ExistsUnique.exists⟩
  · unfold readDate
    rcases Date.parse raw with flaw | d
    · exact .inr ⟨flaw, rfl⟩
    · exact .inl ⟨d, rfl⟩
  · unfold readDateTime
    rcases DateTime.parse raw with flaw | t
    · exact .inr ⟨flaw, rfl⟩
    · exact .inl ⟨t, rfl⟩
  · rw [readDate_ok_iff, Date.parse_ok_iff]
    exact exists_and_not_exists_iff (hdate d)
  · rw [readDateTime_ok_iff, DateTime.parse_ok_iff]
    exact exists_and_not_exists_iff (htime t)

/-- A day and a month of one digit are read, although `YYYY-MM-DD` has two. -/
theorem readDate_beyond_documented :
    readDate "arrival_date" "2026-3-1" = .ok ⟨2026, 3, 1, by decide⟩ ∧
    ¬ ∀ (field raw : String) (d : Date), readDate field raw = .ok d ↔
      ∃ f : DateForm, f.IsDocumented ∧
        f.text = Text.trim raw.toList ∧ f.Names d.year d.month d.day := by
  have hread : readDate "arrival_date" "2026-3-1" = .ok ⟨2026, 3, 1, by decide⟩ := by rfl
  refine ⟨hread, fun h => ?_⟩
  obtain ⟨f, hdocumented, htext, -⟩ := (h _ _ _).1 hread
  have hlength := hdocumented.length_text
  rw [htext] at hlength
  revert hlength
  decide

end ShuttleDesk
