/-
  ShuttleDesk/Proofs/Calendar/Printing.lean
  =========================================
  What is printed is read again as the same.

  A printed date is a text of a form: its numbers are padded with zeros, and a year that is
  negative or has more than four digits carries a sign, so that the reader takes all of its
  digits.  Since every text of a form is read as what the form names, nothing is left but to
  find the form, and to see that no blank at the ends belongs to it.
-/
import ShuttleDesk.Proofs.Calendar.Reading
import Mathlib.Data.Nat.Digits.Defs

namespace ShuttleDesk

open Text (Stops)

/-- Blanks around a text are taken off if the text neither begins nor ends with one. -/
theorem Text.trim_append {before s after : List Char} (hbefore : ∀ c ∈ before, isBlank c = true)
    (hafter : ∀ c ∈ after, isBlank c = true) (hstart : Stops isBlank (s ++ after))
    (hend : Stops isBlank s.reverse) : trim (before ++ (s ++ after)) = s := by
  have hblanks : ∀ c ∈ after.reverse, isBlank c = true := by simpa using hafter
  rw [trim, trimStart, dropWhile_append_of_stops hbefore hstart, trimEnd, List.reverse_append,
    dropWhile_append_of_stops hblanks hend, List.reverse_reverse]

namespace Calendar

/-! ### Printed numbers -/

theorem ofDigitChars_zeros (k : Nat) (ds : List Char) :
    Nat.ofDigitChars 10 (List.replicate k '0' ++ ds) 0 = Nat.ofDigitChars 10 ds 0 := by
  induction k with
  | zero => rfl
  | succ k ih =>
    rw [List.replicate_succ, List.cons_append, Nat.ofDigitChars_cons]
    exact ih

theorem isNumeral_padded (width n : Nat) : IsNumeral (Numeral.padded width n) n where
  nonempty := List.append_ne_nil_of_right_ne_nil _ Nat.toDigits_ne_nil
  digits := by
    intro c hc
    rcases List.mem_append.1 hc with hzero | hdigit
    · rw [List.eq_of_mem_replicate hzero]
      rfl
    · exact Nat.isDigit_of_mem_toDigits (by decide) (by decide) hdigit
  value := by
    rw [Numeral.padded, ofDigitChars_zeros]
    exact Nat.ofDigitChars_ten_toDigits

theorem length_padded {width n : Nat} (hwidth : 0 < width) (h : n < 10 ^ width) :
    (Numeral.padded width n).length = width := by
  have hle : (Numeral.digits n).length ≤ width := Nat.toDigits_length 10 n width hwidth h
  rw [Numeral.padded, List.length_append, List.length_replicate, Nat.sub_add_cancel hle]

/-- Two digits, behind blanks if there are any. -/
def Field.printed (blanks : List Char) (n : Nat) : Field := ⟨blanks, Numeral.padded 2 n⟩

theorem Field.length_printed {blanks : List Char} {n : Nat} (h : n < 100) :
    (printed blanks n).digits.length = 2 :=
  length_padded (by decide) h

theorem Field.reads_printed {blanks : List Char} {n : Nat}
    (hblanks : ∀ c ∈ blanks, Text.isBlank c = true) (h : n < 100) : (printed blanks n).Reads n :=
  ⟨hblanks, isNumeral_padded 2 n, Nat.le_of_eq (length_printed h)⟩

/-! ### The form of a printed date -/

/-- The sign that a printed year carries. -/
def yearSign (year : Int) : Option Bool :=
  if 0 ≤ year ∧ year ≤ 9999 then none else some (decide (year < 0))

theorem yearText_eq (year : Int) :
    Date.yearText year = signText (yearSign year) ++ Numeral.padded 4 year.natAbs := by
  unfold Date.yearText yearSign
  by_cases hplain : 0 ≤ year ∧ year ≤ 9999
  · have habs : year.toNat = year.natAbs := by omega
    rw [if_pos hplain, if_pos hplain, habs]
    rfl
  · rw [if_neg hplain, if_neg hplain]
    by_cases hnegative : year < 0
    · simp [hnegative, signText]
    · simp [hnegative, signText]

theorem signed_yearSign (year : Int) : signed (yearSign year) year.natAbs = year := by
  unfold signed yearSign
  by_cases hplain : 0 ≤ year ∧ year ≤ 9999
  · rw [if_pos hplain, if_neg nofun]
    omega
  · rw [if_neg hplain]
    by_cases hnegative : year < 0
    · rw [if_pos (by simp [hnegative])]
      omega
    · rw [if_neg (by simp [hnegative])]
      omega

theorem lt_of_yearSign_eq_none {year : Int} (h : yearSign year = none) :
    year.natAbs < 10 ^ 4 := by
  unfold yearSign at h
  split at h
  · omega
  · cases h

namespace Date

def form (d : Date) : DateForm where
  sign := yearSign d.year
  year := Numeral.padded 4 d.year.natAbs
  month := .printed [] d.month
  day := .printed [] d.day

theorem text_form (d : Date) : d.form.text = d.chars := by
  simp [form, DateForm.text, Field.text, Field.printed, chars, yearText_eq]

theorem month_lt (d : Date) : d.month < 100 := by
  have := d.isDay.2.1
  omega

theorem day_lt (d : Date) : d.day < 100 := by
  have := d.isDay.2.2
  have := daysIn_le d.year d.month
  omega

theorem names_form (d : Date) : d.form.Names d.year d.month d.day where
  year := ⟨d.year.natAbs, isNumeral_padded 4 _, (signed_yearSign d.year).symm⟩
  length h := Nat.le_of_eq (length_padded (by decide) (lt_of_yearSign_eq_none h))
  month := Field.reads_printed nofun d.month_lt
  day := Field.reads_printed nofun d.day_lt

end Date

namespace DateTime

/-- The form with a space between date and time. -/
def form (t : DateTime) : DateTimeForm where
  date := t.date.form
  hour := .printed [' '] t.hour
  minute := .printed [] t.minute
  second := .printed [] t.second

theorem text_form (t : DateTime) : t.form.text = t.charsWith ' ' := by
  simp [form, DateTimeForm.text, Date.text_form, Field.text, Field.printed, charsWith, timeChars]

theorem reads_form (t : DateTime) : t.form.Reads t := by
  obtain ⟨hhour, hminute, hsecond⟩ := t.isTime
  exact {
    date := t.date.names_form
    apart := .inl (Field.length_printed t.date.day_lt)
    hour := Field.reads_printed (by simp; rfl) (by omega)
    minute := Field.reads_printed nofun (by omega)
    second := Field.reads_printed nofun (by omega) }

end DateTime

/-! ### The ends of a form are no blanks -/

theorem IsNumeral.stops_reverse {ds : List Char} {n : Nat} (h : IsNumeral ds n) (s : List Char) :
    Stops Text.isBlank (s ++ ds).reverse := by
  have hdigits : ∀ c ∈ ds.reverse, c.isDigit = true := by simpa using h.digits
  obtain ⟨c, cs, hcons⟩ := List.exists_cons_of_ne_nil (List.reverse_ne_nil_iff.2 h.nonempty)
  rw [List.reverse_append, hcons]
  exact Text.stops_cons.2 (isBlank_of_isDigit (hdigits c (by simp [hcons])))

theorem DateForm.Names.stops {f : DateForm} {y : Int} {m d : Nat} (h : f.Names y m d)
    (rest : List Char) : Stops Text.isBlank (f.text ++ rest) := by
  obtain ⟨n, hn, -⟩ := h.year
  rw [DateForm.text, List.append_assoc, List.append_assoc]
  exact hn.stops_signed f.sign _

theorem DateForm.Names.stops_reverse {f : DateForm} {y : Int} {m d : Nat} (h : f.Names y m d) :
    Stops Text.isBlank f.text.reverse := by
  have hlast := h.day.numeral.stops_reverse
    (signText f.sign ++ f.year ++ '-' :: (f.month.text ++ '-' :: f.day.blanks))
  simpa [DateForm.text, Field.text] using hlast

theorem DateTimeForm.Reads.stops_reverse {f : DateTimeForm} {t : DateTime} (h : f.Reads t) :
    Stops Text.isBlank f.text.reverse := by
  have hlast := h.second.numeral.stops_reverse
    (f.date.text ++ (f.hour.text ++ ':' :: (f.minute.text ++ ':' :: f.second.blanks)))
  simpa [DateTimeForm.text, Field.text] using hlast

end Calendar

open Calendar

/-- A printed date, and a printed date-time with a space in the middle, are read again as what was
printed, with any blanks around them: all years of the calendar, with or without a sign, and the
leap second of any minute. -/
theorem read_printed (field before after : String) (hbefore : before.toList.all Text.isBlank = true)
    (hafter : after.toList.all Text.isBlank = true) :
    (∀ d : Date, readDate field (before ++ d.text ++ after) = .ok d) ∧
    (∀ t : DateTime,
      readDateTime field (before ++ String.ofList (t.charsWith ' ') ++ after) = .ok t) := by
  have hbefore := List.all_eq_true.1 hbefore
  have hafter := List.all_eq_true.1 hafter
  constructor
  · intro d
    have hform := d.names_form
    rw [readDate_ok_iff, Date.parse_ok_iff]
    refine ⟨d.form, ?_, hform⟩
    have htrim := Text.trim_append hbefore hafter (hform.stops _) hform.stops_reverse
    simpa [Date.text, Date.text_form] using htrim.symm
  · intro t
    have hform := t.reads_form
    rw [readDateTime_ok_iff, DateTime.parse_ok_iff]
    refine ⟨t.form, ?_, hform⟩
    have hstart : Stops Text.isBlank (t.form.text ++ after.toList) := by
      rw [DateTimeForm.text, List.append_assoc]
      exact hform.date.stops _
    have htrim := Text.trim_append hbefore hafter hstart hform.stops_reverse
    simpa [DateTime.text_form] using htrim.symm

/-- The first day of the calendar, in a year with six digits, and a leap second on the leap day of
a year with five. -/
theorem read_printed_first_day_and_leapSecond :
    "\t ".toList.all Text.isBlank = true ∧ "\u3000\n".toList.all Text.isBlank = true ∧
    readDate "arrival_date" ("\t " ++ Date.first.text ++ "\u3000\n") = .ok Date.first ∧
    readDateTime "departure_time"
      ("\t " ++ String.ofList
        (DateTime.charsWith ' ' ⟨⟨12000, 2, 29, by decide⟩, 23, 59, 60, by decide⟩) ++ "\u3000\n") = .ok ⟨⟨12000, 2, 29, by decide⟩, 23, 59, 60, by decide⟩ := by
  have hbefore : "\t ".toList.all Text.isBlank = true := by decide
  have hafter : "\u3000\n".toList.all Text.isBlank = true := by decide
  exact ⟨hbefore, hafter, (read_printed "arrival_date" _ _ hbefore hafter).1 Date.first,
    (read_printed "departure_time" _ _ hbefore hafter).2 _⟩

end ShuttleDesk
