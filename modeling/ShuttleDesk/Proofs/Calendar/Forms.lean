/-
  ShuttleDesk/Proofs/Calendar/Forms.lean
  ======================================
  The forms in which dates and date-times are written.

  A form is a text that is taken apart: a sign, the digits of the year, and numbers of one
  or two digits that may have blanks in front.  It names a day if its numbers are those of
  the day.  The documented forms, `YYYY-MM-DD` and `YYYY-MM-DD HH:MM:SS`, are among these.

  A text can be taken apart in one way only, so that it is known by its form whether it is
  documented.  A number ends where no digit follows.  Only between the day and the hour, where
  no mark stands, the day could go on, and there it has two digits or a blank behind it.
-/
import ShuttleDesk.Calendar.Reading
import Mathlib.Data.List.TakeWhile

namespace ShuttleDesk

variable {p : Char → Bool} {s t rest : List Char}

/-! ### Where a class of characters ends -/

/-- The text does not begin with a character of the class. -/
def Text.Stops (p : Char → Bool) (s : List Char) : Prop := ∀ c ∈ s.head?, p c = false

namespace Text

theorem stops_nil : Stops p [] := by simp [Stops]

@[simp] theorem stops_cons {c : Char} : Stops p (c :: s) ↔ p c = false := by simp [Stops]

theorem stops_dropWhile (p : Char → Bool) (s : List Char) : Stops p (s.dropWhile p) := by
  intro c hc
  have hhead := List.head?_dropWhile_not p s
  rw [Option.mem_def.1 hc] at hhead
  exact hhead

theorem takeWhile_append_of_stops (hs : ∀ c ∈ s, p c = true) (ht : Stops p t) :
    (s ++ t).takeWhile p = s := by
  rw [List.takeWhile_append_of_pos hs]
  cases t with
  | nil => simp
  | cons c t => simp [stops_cons.1 ht]

theorem dropWhile_append_of_stops (hs : ∀ c ∈ s, p c = true) (ht : Stops p t) :
    (s ++ t).dropWhile p = t := by
  rw [List.dropWhile_append_of_pos hs]
  cases t with
  | nil => rfl
  | cons c t => simp [stops_cons.1 ht]

theorem trimStart_eq_self (h : Stops isBlank s) : trimStart s = s :=
  dropWhile_append_of_stops (s := []) (by simp) h

/-- A trimmed text does not begin with a blank. -/
theorem stops_trim (s : List Char) : Stops isBlank (trim s) := by
  obtain ⟨blanks, hblanks⟩ : ∃ blanks, trimStart s = trim s ++ blanks := by
    refine ⟨((trimStart s).reverse.takeWhile isBlank).reverse, ?_⟩
    rw [trim, trimEnd, ← List.reverse_append, List.takeWhile_append_dropWhile,
      List.reverse_reverse]
  have hstart : Stops isBlank (trimStart s) := stops_dropWhile isBlank s
  rw [hblanks] at hstart
  cases htrim : trim s with
  | nil => exact stops_nil
  | cons c t => simpa [htrim] using hstart

end Text

open Text (Stops)

namespace Calendar

/-! ### Written numbers -/

/-- The digits write the number. -/
structure IsNumeral (ds : List Char) (n : Nat) : Prop where
  nonempty : ds ≠ []
  digits : ∀ c ∈ ds, c.isDigit = true
  value : Nat.ofDigitChars 10 ds 0 = n

theorem isBlank_of_isDigit {c : Char} (h : c.isDigit = true) : Text.isBlank c = false := by
  have hbounds : 48 ≤ c.toNat ∧ c.toNat ≤ 57 := by
    simp only [Char.isDigit, ge_iff_le, Bool.and_eq_true, decide_eq_true_eq,
      UInt32.le_iff_toNat_le] at h
    exact h
  simp only [Text.isBlank, Bool.or_eq_false_iff, Bool.and_eq_false_iff, decide_eq_false_iff_not,
    beq_eq_false_iff_ne]
  omega

/-- A numeral begins with a digit, whatever follows. -/
theorem IsNumeral.exists_cons {ds : List Char} {n : Nat} (h : IsNumeral ds n) :
    ∃ c cs, ds = c :: cs ∧ c.isDigit = true := by
  obtain ⟨c, cs, rfl⟩ := List.exists_cons_of_ne_nil h.nonempty
  exact ⟨c, cs, rfl, h.digits c List.mem_cons_self⟩

theorem IsNumeral.stops_isBlank {ds : List Char} {n : Nat} (h : IsNumeral ds n) (t : List Char) :
    Stops Text.isBlank (ds ++ t) := by
  obtain ⟨c, cs, rfl, hc⟩ := h.exists_cons
  exact Text.stops_cons.2 (isBlank_of_isDigit hc)

/-- A number of one or two digits, with blanks in front. -/
structure Field where
  blanks : List Char
  digits : List Char

namespace Field

def text (f : Field) : List Char := f.blanks ++ f.digits

structure Reads (f : Field) (n : Nat) : Prop where
  blanks : ∀ c ∈ f.blanks, Text.isBlank c = true
  numeral : IsNumeral f.digits n
  length : f.digits.length ≤ 2

/-- Two digits, and nothing in front. -/
def IsPair (f : Field) : Prop := f.blanks = [] ∧ f.digits.length = 2

/-- The reader ends with the number: it takes no third digit, and a second one if it is there. -/
def EndsBefore (f : Field) (rest : List Char) : Prop :=
  f.digits.length = 2 ∨ Stops Char.isDigit rest

end Field

/-! ### Forms -/

def signText : Option Bool → List Char
  | none => []
  | some true => ['-']
  | some false => ['+']

/-- A year does not begin with a blank, with or without a sign. -/
theorem IsNumeral.stops_signed {ds : List Char} {n : Nat} (h : IsNumeral ds n)
    (sign : Option Bool) (t : List Char) : Stops Text.isBlank (signText sign ++ (ds ++ t)) := by
  rcases sign with _ | _ | _
  · exact h.stops_isBlank t
  · exact Text.stops_cons.2 rfl
  · exact Text.stops_cons.2 rfl

def signed (sign : Option Bool) (n : Nat) : Int := if sign = some true then -n else n

theorem natAbs_signed (sign : Option Bool) (n : Nat) : (signed sign n).natAbs = n := by
  unfold signed
  split <;> simp

/-- A text that is taken apart as a date: the sign is `some true` for a minus. -/
structure DateForm where
  sign : Option Bool
  year : List Char
  month : Field
  day : Field

namespace DateForm

def text (f : DateForm) : List Char :=
  signText f.sign ++ f.year ++ '-' :: (f.month.text ++ '-' :: f.day.text)

/-- The numbers of the form. A year has four digits at most unless it has a sign. -/
structure Names (f : DateForm) (year : Int) (month day : Nat) : Prop where
  year : ∃ n, IsNumeral f.year n ∧ year = signed f.sign n
  length : f.sign = none → f.year.length ≤ 4
  month : f.month.Reads month
  day : f.day.Reads day

/-- The form is `YYYY-MM-DD`. -/
structure IsDocumented (f : DateForm) : Prop where
  sign : f.sign = none
  year : f.year.length = 4
  month : f.month.IsPair
  day : f.day.IsPair

theorem IsDocumented.length_text {f : DateForm} (h : f.IsDocumented) : f.text.length = 10 := by
  obtain ⟨hsign, hyear, ⟨hmonthBlanks, hmonth⟩, hdayBlanks, hday⟩ := h
  simp [text, hsign, signText, Field.text, hyear, hmonthBlanks, hmonth, hdayBlanks, hday]

end DateForm

/-- A text that is taken apart as a date-time. What stands between date and time stands before the
hour. -/
structure DateTimeForm where
  date : DateForm
  hour : Field
  minute : Field
  second : Field

namespace DateTimeForm

def text (f : DateTimeForm) : List Char :=
  f.date.text ++ (f.hour.text ++ ':' :: (f.minute.text ++ ':' :: f.second.text))

/-- The form is one of the time. Day and hour are kept apart by a blank, or by the length that a
number can have. -/
structure Reads (f : DateTimeForm) (t : DateTime) : Prop where
  date : f.date.Names t.date.year t.date.month t.date.day
  apart : f.date.day.digits.length = 2 ∨ f.hour.blanks ≠ []
  hour : f.hour.Reads t.hour
  minute : f.minute.Reads t.minute
  second : f.second.Reads t.second

/-- The form is `YYYY-MM-DD HH:MM:SS`. -/
structure IsDocumented (f : DateTimeForm) : Prop where
  date : f.date.IsDocumented
  space : f.hour.blanks = [' ']
  hour : f.hour.digits.length = 2
  minute : f.minute.IsPair
  second : f.second.IsPair

end DateTimeForm

/-! ### One form for each text -/

variable {t' : List Char}

namespace Field

variable {f g : Field} {n m : Nat}

theorem Reads.takeWhile_isBlank (hf : f.Reads n) (t : List Char) :
    (f.text ++ t).takeWhile Text.isBlank = f.blanks := by
  rw [text, List.append_assoc]
  exact Text.takeWhile_append_of_stops hf.blanks (hf.numeral.stops_isBlank t)

theorem Reads.take_digits (hf : f.Reads n) (hend : f.EndsBefore t) :
    ((f.digits ++ t).takeWhile Char.isDigit).take 2 = f.digits := by
  rcases hend with hfull | hstops
  · rw [List.takeWhile_append_of_pos hf.numeral.digits, List.take_left' hfull]
  · rw [Text.takeWhile_append_of_stops hf.numeral.digits hstops, List.take_of_length_le hf.length]

theorem Reads.append_inj (hf : f.Reads n) (hg : g.Reads m) (hfend : f.EndsBefore t)
    (hgend : g.EndsBefore t') (h : f.text ++ t = g.text ++ t') : f = g ∧ t = t' := by
  have hblanks : f.blanks = g.blanks := by
    rw [← hf.takeWhile_isBlank t, ← hg.takeWhile_isBlank t', h]
  rw [text, text, hblanks, List.append_assoc, List.append_assoc] at h
  have hnumbers : f.digits ++ t = g.digits ++ t' := List.append_cancel_left h
  have hdigits : f.digits = g.digits := by
    rw [← hf.take_digits hfend, ← hg.take_digits hgend, hnumbers]
  rw [hdigits] at hnumbers
  refine ⟨?_, List.append_cancel_left hnumbers⟩
  cases f
  cases g
  rw [mk.injEq]
  exact ⟨hblanks, hdigits⟩

end Field

/-- The day ends where the hour begins. -/
theorem Field.endsBefore_hour_iff {day hour : Field} {n : Nat} (hhour : hour.Reads n) :
    day.EndsBefore (hour.text ++ rest) ↔ day.digits.length = 2 ∨ hour.blanks ≠ [] := by
  refine or_congr_right ?_
  cases hblanks : hour.blanks with
  | nil =>
    obtain ⟨c, cs, hcons, hc⟩ := hhour.numeral.exists_cons
    simp [Field.text, hblanks, hcons, hc]
  | cons c bs =>
    have hblank := hhour.blanks c (by rw [hblanks]; exact List.mem_cons_self)
    have hdigit : c.isDigit = false := by
      rw [← Bool.not_eq_true]
      intro hc
      rw [isBlank_of_isDigit hc] at hblank
      cases hblank
    simp [Field.text, hblanks, hdigit]

theorem signText_append_inj {sg sg' : Option Bool} {ds ds' : List Char} {n n' : Nat}
    (hds : IsNumeral ds n) (hds' : IsNumeral ds' n')
    (h : signText sg ++ (ds ++ t) = signText sg' ++ (ds' ++ t')) :
    sg = sg' ∧ ds ++ t = ds' ++ t' := by
  obtain ⟨c, cs, rfl, hc⟩ := hds.exists_cons
  obtain ⟨c', cs', rfl, hc'⟩ := hds'.exists_cons
  have hmark : ∀ d : Char, d.isDigit = true → d ≠ '-' ∧ d ≠ '+' := by
    intro d hd
    constructor <;> rintro rfl <;> cases hd
  have hno := hmark c hc
  have hno' := hmark c' hc'
  rcases sg with _ | _ | _ <;> rcases sg' with _ | _ | _ <;> grind [signText]

theorem DateForm.Names.append_inj {f g : DateForm} {y y' : Int} {m m' d d' : Nat}
    (hf : f.Names y m d) (hg : g.Names y' m' d') (hfend : f.day.EndsBefore t)
    (hgend : g.day.EndsBefore t') (h : f.text ++ t = g.text ++ t') : f = g ∧ t = t' := by
  obtain ⟨n, hn, -⟩ := hf.year
  obtain ⟨n', hn', -⟩ := hg.year
  obtain ⟨sign, year, month, day⟩ := f
  obtain ⟨sign', year', month', day'⟩ := g
  simp only [text, List.append_assoc, List.cons_append] at h
  obtain ⟨rfl, hyears⟩ := signText_append_inj hn hn' h
  have hmark : ∀ s, Stops Char.isDigit ('-' :: s) := fun s => Text.stops_cons.2 rfl
  have hyear : year = year' := by
    have htake := congrArg (List.takeWhile Char.isDigit) hyears
    rwa [Text.takeWhile_append_of_stops hn.digits (hmark _),
      Text.takeWhile_append_of_stops hn'.digits (hmark _)] at htake
  subst hyear
  have hmonths := List.append_cancel_left hyears
  rw [List.cons.injEq] at hmonths
  obtain ⟨rfl, hdays⟩ := hf.month.append_inj hg.month (.inr (hmark _)) (.inr (hmark _)) hmonths.2
  rw [List.cons.injEq] at hdays
  obtain ⟨rfl, hrest⟩ := hf.day.append_inj hg.day hfend hgend hdays.2
  exact ⟨rfl, hrest⟩

theorem DateTimeForm.Reads.eq_of_text_eq {f g : DateTimeForm} {u v : DateTime} (hf : f.Reads u)
    (hg : g.Reads v) (h : f.text = g.text) : f = g := by
  obtain ⟨date, hour, minute, second⟩ := f
  obtain ⟨date', hour', minute', second'⟩ := g
  have hmark : ∀ s, Stops Char.isDigit (':' :: s) := fun s => Text.stops_cons.2 rfl
  obtain ⟨rfl, hhours⟩ := hf.date.append_inj hg.date
    ((Field.endsBefore_hour_iff hf.hour).2 hf.apart)
    ((Field.endsBefore_hour_iff hg.hour).2 hg.apart) h
  obtain ⟨rfl, hminutes⟩ := hf.hour.append_inj hg.hour (.inr (hmark _)) (.inr (hmark _)) hhours
  rw [List.cons.injEq] at hminutes
  obtain ⟨rfl, hseconds⟩ :=
    hf.minute.append_inj hg.minute (.inr (hmark _)) (.inr (hmark _)) hminutes.2
  have hends : second.text ++ [] = second'.text ++ [] := by
    rw [List.cons.injEq] at hseconds
    rw [List.append_nil, List.append_nil, hseconds.2]
  obtain ⟨rfl, -⟩ :=
    hf.second.append_inj hg.second (.inr Text.stops_nil) (.inr Text.stops_nil) hends
  rfl

theorem DateForm.Names.eq_of_text_eq {f g : DateForm} {y y' : Int} {m m' d d' : Nat}
    (hf : f.Names y m d) (hg : g.Names y' m' d') (h : f.text = g.text) : f = g := by
  have htext : f.text ++ [] = g.text ++ [] := by rw [h]
  exact (hf.append_inj hg (.inr Text.stops_nil) (.inr Text.stops_nil) htext).1

end Calendar
end ShuttleDesk
