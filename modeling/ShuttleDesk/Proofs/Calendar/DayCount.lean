/-
  ShuttleDesk/Proofs/Calendar/DayCount.lean
  =========================================
  Counting days loses nothing: a day is found again from its number and a number from
  its day, and so it is with times without a leap second and their seconds.  So
  whatever the desk computes inside the calendar can be read back once it is stored.
  And the numbers of the days have no gap, so that adding minutes fails only where the
  calendar ends or begins.

  The years are counted from March, in eras of 400 years.  The year of the era is the
  one hard step: a century is shorter by a day than its years in groups of four, except
  the last one of an era.
-/
import ShuttleDesk.Pickup

namespace ShuttleDesk.Calendar

theorem isLeap_iff {year : Int} :
    isLeap year = true ↔ year % 4 = 0 ∧ (year % 100 ≠ 0 ∨ year % 400 = 0) := by
  simp [isLeap]

/-! ### The year from March -/

/-- The year of a day, if years begin in March. -/
def yearFromMarch (year : Int) (month : Nat) : Int := if month ≤ 2 then year - 1 else year

def monthFromMarch (month : Nat) : Int := ((month : Int) + 9) % 12

def dayFromMarch (month day : Nat) : Int := (153 * monthFromMarch month + 2) / 5 + day - 1

theorem countDays_eq (year : Int) (month day : Nat) :
    countDays year month day =
      365 * yearFromMarch year month + yearFromMarch year month / 4
        - yearFromMarch year month / 100 + yearFromMarch year month / 400
        + dayFromMarch month day := by
  simp only [countDays, dayFromMarch, yearFromMarch, monthFromMarch]
  omega

/-- The day of the year lies in the year, and the month is found again from it.  Only a leap
day is the last but one day before another March. -/
theorem dayFromMarch_spec {year : Int} {month day : Nat} (h : IsDay year month day) :
    0 ≤ dayFromMarch month day ∧
    (5 * dayFromMarch month day + 2) / 153 = monthFromMarch month ∧
    (dayFromMarch month day ≤ 364 ∨
      (dayFromMarch month day = 365 ∧ isLeap (yearFromMarch year month + 1) = true)) := by
  obtain ⟨-, hm, hd⟩ := h
  have hcases : month = 1 ∨ month = 2 ∨ month = 3 ∨ month = 4 ∨ month = 5 ∨ month = 6 ∨
      month = 7 ∨ month = 8 ∨ month = 9 ∨ month = 10 ∨ month = 11 ∨ month = 12 := by omega
  rcases hcases with rfl | rfl | rfl | rfl | rfl | rfl | rfl | rfl | rfl | rfl | rfl | rfl <;>
    simp [daysIn, dayFromMarch, monthFromMarch, yearFromMarch] at hd ⊢ <;> try omega
  -- only February is left, whose length depends on the year
  by_cases hl : isLeap year = true <;> simp [hl] at hd ⊢ <;> omega

/-! ### The year of the era -/

/-- The year of a day of an era. -/
def yearOfEra (n : Int) : Int := (n - n / 1460 + n / 36524 - n / 146096) / 365

theorem yearOfEra_eq {y doy : Int} (hy : 0 ≤ y ∧ y < 400) (hd : 0 ≤ doy)
    (hle : doy ≤ 364 ∨ (doy = 365 ∧ isLeap (y + 1) = true)) :
    yearOfEra (365 * y + y / 4 - y / 100 + doy) = y := by
  rw [isLeap_iff] at hle
  -- century, group of four and year in the group
  obtain ⟨c, q, r, rfl, hc, hq, hr⟩ : ∃ c q r : Int, y = 100 * c + 4 * q + r ∧
      (0 ≤ c ∧ c ≤ 3) ∧ (0 ≤ q ∧ q ≤ 24) ∧ (0 ≤ r ∧ r ≤ 3) :=
    ⟨y / 100, y % 100 / 4, y % 4, by omega⟩
  have hleap : doy ≤ 364 ∨ (doy = 365 ∧ r = 3 ∧ (q ≤ 23 ∨ c = 3)) := by omega
  generalize hn : 365 * (100 * c + 4 * q + r) + (100 * c + 4 * q + r) / 4
    - (100 * c + 4 * q + r) / 100 + doy = n
  have hn : n = 36524 * c + 1461 * q + 365 * r + doy := by omega
  unfold yearOfEra
  by_cases hend : n = 146096
  · -- the leap day at the end of the era
    subst hend
    omega
  · have hera : n / 146096 = 0 := by omega
    have hcentury : n / 36524 = c := by omega
    have hgroup : 1460 * (n / 1460) ≤ n ∧ n < 1460 * (n / 1460) + 1460 := by omega
    generalize n / 1460 = k at hgroup ⊢
    rw [hera, hcentury]
    omega

/-- Every day of an era lies in one of its years. -/
theorem exists_yearOfEra {n : Int} (h : 0 ≤ n ∧ n < 146097) :
    ∃ y doy : Int, (0 ≤ y ∧ y < 400) ∧ 0 ≤ doy ∧
      (doy ≤ 364 ∨ (doy = 365 ∧ isLeap (y + 1) = true)) ∧
      n = 365 * y + y / 4 - y / 100 + doy := by
  -- the last century of an era and the last year of a group may be longer by a day
  obtain ⟨c, hc⟩ : ∃ c, c = min (n / 36524) 3 := ⟨_, rfl⟩
  obtain ⟨q, hq⟩ : ∃ q, q = (n - 36524 * c) / 1461 := ⟨_, rfl⟩
  obtain ⟨r, hr⟩ : ∃ r, r = min ((n - 36524 * c - 1461 * q) / 365) 3 := ⟨_, rfl⟩
  have hbounds : (0 ≤ c ∧ c ≤ 3) ∧ (0 ≤ q ∧ q ≤ 24) ∧ (0 ≤ r ∧ r ≤ 3) := by omega
  have hquarter : (100 * c + 4 * q + r) / 4 = 25 * c + q := by omega
  have hcentury : (100 * c + 4 * q + r) / 100 = c := by omega
  refine ⟨100 * c + 4 * q + r, n - 36524 * c - 1461 * q - 365 * r, by omega, by omega, ?_, ?_⟩
  · by_cases hle : n - 36524 * c - 1461 * q - 365 * r ≤ 364
    · exact .inl hle
    · rw [isLeap_iff]
      exact .inr ⟨by omega, by omega, by omega⟩
  · rw [hquarter, hcentury]
    omega

/-! ### Days from their numbers -/

theorem ofCount_countDays {year : Int} {month day : Nat} (h : IsDay year month day) :
    ofCount (countDays year month day) = (year, month, day) := by
  obtain ⟨hdoy, hmonth, hle⟩ := dayFromMarch_spec h
  have hday : dayFromMarch month day = (153 * monthFromMarch month + 2) / 5 + day - 1 := rfl
  have hm : monthFromMarch month = ((month : Int) + 9) % 12 := rfl
  have hy : yearFromMarch year month = if month ≤ 2 then year - 1 else year := rfl
  obtain ⟨-, hbounds, -⟩ := h
  rw [countDays_eq]
  generalize dayFromMarch month day = doy at *
  generalize yearFromMarch year month = y at *
  have hn : 365 * y + y / 4 - y / 100 + y / 400 + doy
      = 146097 * (y / 400) + (365 * (y % 400) + (y % 400) / 4 - (y % 400) / 100 + doy) := by omega
  -- leap years repeat with the era
  have hleap : isLeap (y % 400 + 1) = isLeap (y + 1) := by
    rw [Bool.eq_iff_iff, isLeap_iff, isLeap_iff]
    omega
  have hyear := yearOfEra_eq (y := y % 400) (by omega) hdoy (by rwa [hleap])
  rw [isLeap_iff] at hle
  rw [hn]
  generalize hdoe : 365 * (y % 400) + (y % 400) / 4 - (y % 400) / 100 + doy = doe at hyear ⊢
  have hera : (146097 * (y / 400) + doe) / 146097 = y / 400 := by omega
  have hrest : (146097 * (y / 400) + doe) % 146097 = doe := by omega
  have hdoy' : doe - (365 * (y % 400) + (y % 400) / 4 - (y % 400) / 100) = doy := by omega
  have hmonth' : (if monthFromMarch month < 10 then monthFromMarch month + 3
      else monthFromMarch month - 9) = (month : Int) := by omega
  unfold yearOfEra at hyear
  simp only [ofCount, hera, hrest, hyear, hdoy', hmonth, hmonth', Prod.mk.injEq]
  refine ⟨?_, ?_, ?_⟩
  · omega
  · omega
  · omega

theorem countDays_ofCount (n : Int) :
    countDays (ofCount n).1 (ofCount n).2.1 (ofCount n).2.2 = n := by
  obtain ⟨y, doy, hy, hdoy, hle, hn⟩ := exists_yearOfEra (n := n % 146097) (by omega)
  have hyear : yearOfEra (n % 146097) = y := by
    rw [hn]
    exact yearOfEra_eq hy hdoy hle
  have hrest : n % 146097 - (365 * y + y / 4 - y / 100) = doy := by omega
  have hyears : 365 * (y + n / 146097 * 400) + (y + n / 146097 * 400) / 4
      - (y + n / 146097 * 400) / 100 + (y + n / 146097 * 400) / 400 + doy = n := by omega
  unfold yearOfEra at hyear
  simp only [ofCount, hyear, hrest, countDays]
  generalize hm : (5 * doy + 2) / 153 = m
  generalize y + n / 146097 * 400 = year at hyears ⊢
  have hbounds : 0 ≤ m ∧ m ≤ 11 := by omega
  have hday : ((doy - (153 * m + 2) / 5 + 1).toNat : Int) = doy - (153 * m + 2) / 5 + 1 := by omega
  rw [hday]
  by_cases h : m < 10
  · have hmonth : ¬ m + 3 ≤ 2 := by omega
    have hmonth' : ¬ (m + 3).toNat ≤ 2 := by omega
    have hm' : (((m + 3).toNat : Int) + 9) % 12 = m := by omega
    simp only [if_pos h, if_neg hmonth, if_neg hmonth', hm']
    omega
  · have hmonth : m - 9 ≤ 2 := by omega
    have hmonth' : (m - 9).toNat ≤ 2 := by omega
    have hm' : (((m - 9).toNat : Int) + 9) % 12 = m := by omega
    simp only [if_neg h, if_pos hmonth, if_pos hmonth', hm', Int.add_sub_cancel]
    omega

theorem Date.ofNumber?_number (d : Date) : Date.ofNumber? d.number = some d := by
  have h : ofCount d.number = (d.year, d.month, d.day) := ofCount_countDays d.isDay
  simp [Date.ofNumber?, Date.ofParts?, h, d.isDay]

theorem Date.number_of_ofNumber? {n : Int} {d : Date} (h : Date.ofNumber? n = some d) :
    d.number = n := by
  simp only [Date.ofNumber?, Date.ofParts?] at h
  by_cases hday : IsDay (ofCount n).1 (ofCount n).2.1 (ofCount n).2.2
  · rw [dif_pos hday] at h
    cases h
    exact countDays_ofCount n
  · rw [dif_neg hday] at h
    cases h

/-! ### From the first day to the last -/

/-- The first day of the calendar. -/
def Date.first : Date := ⟨firstYear, 1, 1, by decide⟩

/-- The last day of the calendar. -/
def Date.last : Date := ⟨262142, 12, 31, by decide⟩

theorem Date.ext_numbers {d e : Date} (hy : d.year = e.year) (hm : d.month = e.month)
    (hd : d.day = e.day) : d = e := by
  cases d
  cases e
  simp_all

theorem countDays_next_month {year : Int} {month : Nat} (h : 1 ≤ month ∧ month < 12) :
    countDays year (month + 1) 1 = countDays year month (daysIn year month) + 1 := by
  have hcases : month = 1 ∨ month = 2 ∨ month = 3 ∨ month = 4 ∨ month = 5 ∨ month = 6 ∨
      month = 7 ∨ month = 8 ∨ month = 9 ∨ month = 10 ∨ month = 11 := by omega
  rcases hcases with rfl | rfl | rfl | rfl | rfl | rfl | rfl | rfl | rfl | rfl | rfl <;>
    simp [countDays, daysIn] <;> try omega
  by_cases hl : isLeap year = true
  · have := isLeap_iff.1 hl
    simp [hl]
    omega
  · have := mt isLeap_iff.2 hl
    simp [hl]
    omega

/-- The day that comes next: in the same month, on the first of the next month, or on the first of
January. -/
inductive Date.IsNext (d e : Date) : Prop where
  | inMonth (year : e.year = d.year) (month : e.month = d.month) (day : e.day = d.day + 1)
  | inYear (monthEnds : d.day = daysIn d.year d.month) (year : e.year = d.year)
      (month : e.month = d.month + 1) (day : e.day = 1)
  | newYear (december : d.month = 12) (monthEnds : d.day = 31) (year : e.year = d.year + 1)
      (month : e.month = 1) (day : e.day = 1)

theorem Date.IsNext.number {d e : Date} (h : d.IsNext e) : e.number = d.number + 1 := by
  unfold Date.number
  cases h with
  | inMonth hyear hmonth hday =>
    rw [hyear, hmonth, hday]
    simp only [countDays]
    omega
  | inYear hends hyear hmonth hday =>
    have hbounds := e.isDay.2.1
    have hfirst := d.isDay.2.1
    rw [hyear, hmonth, hday, hends]
    exact countDays_next_month ⟨hfirst.1, by omega⟩
  | newYear hdecember hends hyear hmonth hday =>
    rw [hyear, hmonth, hday, hdecember, hends]
    simp only [countDays]
    simp
    omega

/-- After every day but the last there is another day. -/
theorem Date.exists_isNext {d : Date} (h : d ≠ Date.last) : ∃ e, d.IsNext e := by
  obtain ⟨year, month, day, hyear, hmonth, hday⟩ := d
  by_cases hlast : day < daysIn year month
  · exact ⟨⟨year, month, day + 1, hyear, hmonth, by omega, hlast⟩, .inMonth rfl rfl rfl⟩
  have hends : day = daysIn year month := by omega
  by_cases hdec : month < 12
  · have hfirst : 1 ≤ daysIn year (month + 1) := by
      unfold daysIn
      split <;> split <;> omega
    exact ⟨⟨year, month + 1, 1, hyear, by omega, by omega, hfirst⟩, .inYear hends rfl rfl rfl⟩
  · obtain rfl : month = 12 := by omega
    have hday' : day = 31 := by simpa [daysIn] using hends
    have hlt : year < lastYear := by
      rcases Int.lt_or_eq_of_le hyear.2 with hlt | heq
      · exact hlt
      · exact absurd (Date.ext_numbers (d := ⟨year, 12, day, _⟩) (e := last) heq rfl hday') h
    have hnewYear : IsDay (year + 1) 1 1 := by
      refine ⟨?_, by decide, by simp [daysIn]⟩
      unfold firstYear lastYear at *
      omega
    exact ⟨⟨year + 1, 1, 1, hnewYear⟩, .newYear rfl hday' rfl rfl rfl⟩

theorem Date.exists_next {d : Date} (h : d ≠ Date.last) : ∃ e : Date, e.number = d.number + 1 := by
  obtain ⟨e, he⟩ := exists_isNext h
  exact ⟨e, he.number⟩

theorem daysIn_le (year : Int) (month : Nat) : daysIn year month ≤ 31 := by
  unfold daysIn
  repeat' split
  all_goals omega

theorem Date.number_bounds (d : Date) : first.number ≤ d.number ∧ d.number ≤ last.number := by
  obtain ⟨year, month, day, ⟨hfirst, hlast⟩, hmonth, hday⟩ := d
  have hshort := daysIn_le year month
  have hfirstNumber : first.number = -95745824 := by decide
  have hlastNumber : last.number = 95745704 := by decide
  rw [hfirstNumber, hlastNumber]
  unfold firstYear at hfirst
  unfold lastYear at hlast
  simp only [number, countDays]
  by_cases hearly : month ≤ 2
  · have hm : ((month : Int) + 9) % 12 = month + 9 := by omega
    simp only [if_pos hearly, hm]
    omega
  · have hm : ((month : Int) + 9) % 12 = month - 3 := by omega
    simp only [if_neg hearly, hm]
    omega

/-- Every number from that of a day to that of the last day is the number of a day. -/
theorem Date.exists_number {d : Date} (k : Nat) (h : d.number + k ≤ last.number) :
    ∃ e : Date, e.number = d.number + k := by
  induction k with
  | zero => exact ⟨d, by omega⟩
  | succ k ih =>
    obtain ⟨e, he⟩ := ih (by omega)
    have hne : e ≠ last := by
      rintro rfl
      omega
    obtain ⟨f, hf⟩ := exists_next hne
    exact ⟨f, by omega⟩

/-- The days of the calendar are those from the first to the last. -/
theorem Date.ofNumber?_isSome_iff {n : Int} :
    (ofNumber? n).isSome = true ↔ first.number ≤ n ∧ n ≤ last.number := by
  constructor
  · intro h
    obtain ⟨d, hd⟩ := Option.isSome_iff_exists.1 h
    rw [← number_of_ofNumber? hd]
    exact d.number_bounds
  · rintro ⟨hfirst, hlast⟩
    obtain ⟨d, hd⟩ : ∃ d : Date, d.number = first.number + (n - first.number).toNat :=
      exists_number _ (by omega)
    have hn : n = d.number := by omega
    rw [hn, ofNumber?_number]
    rfl

/-! ### Times from their seconds -/

namespace DateTime

theorem ofSeconds?_isSome_iff {n : Int} :
    (ofSeconds? n).isSome = true ↔ (Date.ofNumber? (n / secondsPerDay)).isSome = true := by
  have hbounds : IsTime ((n % secondsPerDay).toNat / 3600) ((n % secondsPerDay).toNat % 3600 / 60)
      ((n % secondsPerDay).toNat % 60) := by
    unfold IsTime secondsPerDay
    omega
  unfold ofSeconds?
  cases Date.ofNumber? (n / secondsPerDay) with
  | none => rfl
  | some d => simp [ofParts?, hbounds]

theorem not_isLeapSecond_of_ofSeconds? {n : Int} {t : DateTime} (h : ofSeconds? n = some t) :
    t.isLeapSecond = false := by
  unfold ofSeconds? at h
  cases hd : Date.ofNumber? (n / secondsPerDay) with
  | none => simp [hd] at h
  | some d =>
    simp only [hd, ofParts?, Option.bind_eq_bind, Option.bind_some] at h
    split at h
    · cases h
      simp only [isLeapSecond, beq_eq_false_iff_ne, ne_eq]
      omega
    · cases h

theorem seconds_of_ofSeconds? {n : Int} {t : DateTime} (h : ofSeconds? n = some t) :
    t.seconds = n := by
  unfold ofSeconds? at h
  cases hd : Date.ofNumber? (n / secondsPerDay) with
  | none => simp [hd] at h
  | some d =>
    simp only [hd, ofParts?, Option.bind_eq_bind, Option.bind_some] at h
    split at h
    · cases h
      simp only [seconds, secondOfDay, Date.number_of_ofNumber? hd]
      unfold secondsPerDay
      omega
    · cases h

/-- The first second of the calendar. -/
def first : DateTime := ⟨Date.first, 0, 0, 0, by decide⟩

/-- The last second of the calendar, which is a leap second. -/
def last : DateTime := ⟨Date.last, 23, 59, 60, by decide⟩

theorem first_seconds : first.seconds = Date.first.number * secondsPerDay := by decide

theorem last_seconds : last.seconds = (Date.last.number + 1) * secondsPerDay := by decide

theorem ofSeconds?_eq_none_iff {n : Int} :
    ofSeconds? n = none ↔ n < first.seconds ∨ last.seconds ≤ n := by
  rw [← Option.not_isSome_iff_eq_none, ofSeconds?_isSome_iff, Date.ofNumber?_isSome_iff,
    first_seconds, last_seconds]
  unfold secondsPerDay
  omega

theorem seconds_div_of_lt {t : DateTime} (h : t.secondOfDay < secondsPerDay) :
    t.seconds / secondsPerDay = t.date.number := by
  unfold seconds secondOfDay secondsPerDay at *
  omega

theorem secondOfDay_lt {t : DateTime} (h : t.isLeapSecond = false) :
    t.secondOfDay < secondsPerDay := by
  have ht := t.isTime
  simp only [isLeapSecond, beq_eq_false_iff_ne, ne_eq] at h
  unfold IsTime at ht
  unfold secondOfDay secondsPerDay
  omega

theorem seconds_bounds {t : DateTime} (h : t.isLeapSecond = false) :
    first.seconds ≤ t.seconds ∧ t.seconds < last.seconds := by
  have hbounds := t.date.number_bounds
  have hday := secondOfDay_lt h
  have hnonneg : 0 ≤ t.secondOfDay := by
    unfold secondOfDay
    omega
  rw [first_seconds, last_seconds]
  unfold seconds secondsPerDay at *
  omega

/-- Leap seconds apart, a time is known by its seconds. -/
theorem eq_of_seconds_eq {t u : DateTime} (ht : t.isLeapSecond = false)
    (hu : u.isLeapSecond = false) (h : t.seconds = u.seconds) : t = u := by
  have hnumber : t.date.number = u.date.number := by
    rw [← seconds_div_of_lt (secondOfDay_lt ht), ← seconds_div_of_lt (secondOfDay_lt hu), h]
  have hdate : t.date = u.date := by
    apply Option.some.inj
    rw [← Date.ofNumber?_number, ← Date.ofNumber?_number, hnumber]
  have hday : t.secondOfDay = u.secondOfDay := by
    unfold seconds secondsPerDay at h
    omega
  obtain ⟨date, hour, minute, second, isTime⟩ := t
  obtain ⟨date', hour', minute', second', isTime'⟩ := u
  simp only [isLeapSecond, beq_eq_false_iff_ne, ne_eq, secondOfDay] at *
  unfold IsTime at isTime isTime'
  obtain ⟨rfl, rfl, rfl⟩ : hour = hour' ∧ minute = minute' ∧ second = second' := by omega
  subst hdate
  rfl

/-! ### Some minutes later -/

/-- The seconds some minutes later; going forward, a leap second counts as second 59. -/
def secondsAfter (t : DateTime) (minutes : Int) : Int :=
  t.seconds + minutes * 60 - if t.isLeapSecond = true ∧ 0 < minutes then 1 else 0

theorem seconds_of_addMinutes? {t u : DateTime} {minutes : Int}
    (h : t.addMinutes? minutes = some u) : u.seconds = t.secondsAfter minutes := by
  unfold addMinutes? at h
  unfold secondsAfter
  cases hleap : t.isLeapSecond with
  | true =>
    rw [hleap, if_pos rfl] at h
    by_cases hzero : minutes = 0
    · rw [if_pos hzero, Option.some.injEq] at h
      simp [h, hzero]
    · rw [if_neg hzero] at h
      simp [seconds_of_ofSeconds? h]
  | false =>
    rw [hleap, if_neg Bool.false_ne_true] at h
    simp [seconds_of_ofSeconds? h]

/-- Some minutes later the calendar has ended, or, if their number is negative, had not begun. -/
def LeavesCalendarAfter (t : DateTime) (minutes : Int) : Prop :=
  minutes ≠ 0 ∧ (t.secondsAfter minutes < first.seconds ∨ last.seconds ≤ t.secondsAfter minutes)

instance (t : DateTime) (minutes : Int) : Decidable (t.LeavesCalendarAfter minutes) := by
  unfold LeavesCalendarAfter
  infer_instance

theorem addMinutes?_eq_none_iff {t : DateTime} {minutes : Int} :
    t.addMinutes? minutes = none ↔ t.LeavesCalendarAfter minutes := by
  unfold addMinutes? LeavesCalendarAfter secondsAfter
  cases hleap : t.isLeapSecond with
  | true =>
    by_cases hzero : minutes = 0
    · simp [hzero]
    · simp [hzero, ofSeconds?_eq_none_iff]
  | false =>
    simp only [Bool.false_eq_true, if_false, false_and, Int.sub_zero, ofSeconds?_eq_none_iff]
    refine ⟨fun h => ⟨?_, h⟩, And.right⟩
    -- the time itself is in the calendar
    rintro rfl
    have hbounds := seconds_bounds hleap
    omega

example : last.LeavesCalendarAfter 1 ∧ ¬ last.LeavesCalendarAfter 0 := by decide

/-- Some minutes later there is no leap second. -/
theorem not_isLeapSecond_of_addMinutes? {t u : DateTime} {minutes : Int} (hne : minutes ≠ 0)
    (h : t.addMinutes? minutes = some u) : u.isLeapSecond = false := by
  unfold addMinutes? at h
  rw [if_neg hne] at h
  split at h <;> exact not_isLeapSecond_of_ofSeconds? h

end DateTime

/-! ### What can be read back -/

namespace WallClock

/-- A stored time that can be read back is stored as the same again. -/
theorem ofDateTime_of_toDateTime? {w : WallClock} {t : DateTime} (h : w.toDateTime? = some t) :
    ofDateTime t = w := by
  simp only [ofDateTime, DateTime.seconds_of_ofSeconds? h]

theorem isReadable_iff {w : WallClock} :
    w.isReadable = true ↔ (Date.ofNumber? (w.seconds / secondsPerDay)).isSome = true :=
  DateTime.ofSeconds?_isSome_iff

/-- Only the leap second at the end of a day counts into another day. -/
theorem isReadable_of_lt {t : DateTime} (h : t.secondOfDay < secondsPerDay) :
    (ofDateTime t).isReadable = true := by
  rw [isReadable_iff]
  simp only [ofDateTime]
  rw [DateTime.seconds_div_of_lt h, Date.ofNumber?_number]
  rfl

theorem isReadable_of_not_isLeapSecond {t : DateTime} (h : t.isLeapSecond = false) :
    (ofDateTime t).isReadable = true :=
  isReadable_of_lt (DateTime.secondOfDay_lt h)

/-- What is stored is read back as it was, unless it is a leap second. -/
theorem toDateTime?_ofDateTime {t : DateTime} (h : t.isLeapSecond = false) :
    (ofDateTime t).toDateTime? = some t := by
  obtain ⟨u, hu⟩ := Option.isSome_iff_exists.1 (isReadable_of_not_isLeapSecond h)
  have hseconds : u.seconds = t.seconds := DateTime.seconds_of_ofSeconds? hu
  rw [hu, DateTime.eq_of_seconds_eq (DateTime.not_isLeapSecond_of_ofSeconds? hu) h hseconds]

/-- A leap second is read back as the first second of the next minute. -/
theorem second_eq_zero_of_isLeapSecond {t u : DateTime} (h : t.isLeapSecond = true)
    (hu : (ofDateTime t).toDateTime? = some u) : u.second = 0 := by
  have hseconds : u.seconds = t.seconds := DateTime.seconds_of_ofSeconds? hu
  have hnot := DateTime.not_isLeapSecond_of_ofSeconds? hu
  have hbounds := u.isTime
  simp only [DateTime.isLeapSecond, beq_iff_eq, beq_eq_false_iff_ne, ne_eq] at h hnot
  unfold DateTime.seconds DateTime.secondOfDay secondsPerDay at hseconds
  unfold IsTime at hbounds
  omega

/-- The leap second with which the calendar ends is the one time that counts past it. -/
theorem isReadable_eq_false_iff {t : DateTime} :
    (ofDateTime t).isReadable = false ↔ t = DateTime.last := by
  constructor
  · intro h
    have hlt : ¬ t.secondOfDay < secondsPerDay := by
      intro hlt
      rw [isReadable_of_lt hlt] at h
      cases h
    have ht := t.isTime
    obtain ⟨date, hour, minute, second, hisTime⟩ := t
    unfold IsTime at ht
    unfold DateTime.secondOfDay secondsPerDay at hlt
    simp only at ht hlt
    obtain ⟨rfl, rfl, rfl⟩ : hour = 23 ∧ minute = 59 ∧ second = 60 := by omega
    by_cases hlast : date = Date.last
    · subst hlast
      rfl
    · -- the leap second of another day is the first second of the next one
      obtain ⟨e, he⟩ := Date.exists_next hlast
      have hnext : (ofDateTime ⟨date, 23, 59, 60, hisTime⟩).seconds / secondsPerDay = e.number := by
        rw [he]
        simp only [ofDateTime, DateTime.seconds, DateTime.secondOfDay, secondsPerDay]
        omega
      rw [← Bool.not_eq_true, isReadable_iff, hnext, Date.ofNumber?_number] at h
      exact absurd rfl h
  · rintro rfl
    decide +kernel

/-- If some minutes after an arrival lie in the calendar, both can be read back. -/
theorem isReadable_of_addMinutes? {arrival pickup : DateTime} {minutes : Int} (hpos : 0 < minutes)
    (h : arrival.addMinutes? minutes = some pickup) :
    (ofDateTime arrival).isReadable = true ∧ (ofDateTime pickup).isReadable = true := by
  constructor
  · rw [← Bool.not_eq_false, isReadable_eq_false_iff]
    rintro rfl
    -- nothing comes after the last second
    have hpast : DateTime.last.LeavesCalendarAfter minutes := by
      refine ⟨by omega, .inr ?_⟩
      have hleap : DateTime.last.isLeapSecond = true := rfl
      simp only [DateTime.secondsAfter, hleap, hpos, and_self, if_true]
      omega
    rw [DateTime.addMinutes?_eq_none_iff.2 hpast] at h
    cases h
  · exact isReadable_of_not_isLeapSecond (DateTime.not_isLeapSecond_of_addMinutes? (by omega) h)

end WallClock

end ShuttleDesk.Calendar

namespace ShuttleDesk.Pickup

open Calendar

theorem bufferFor_pos (terminal : String) : 0 < bufferFor terminal := by
  unfold bufferFor
  split <;> decide

theorem bufferFor_eq_iff {terminal terminal' : String} :
    bufferFor terminal = bufferFor terminal' ↔
      (terminal = extendedTerminal ↔ terminal' = extendedTerminal) := by
  unfold bufferFor
  split <;> split <;> simp_all

/-- After an arrival that is no leap second the pickup is later by exactly the buffer. -/
theorem seconds_of_time? {arrival pickup : DateTime} {buffer : Int}
    (hleap : arrival.isLeapSecond = false) (h : time? arrival buffer = some pickup) :
    pickup.seconds = arrival.seconds + buffer * 60 := by
  rw [DateTime.seconds_of_addMinutes? h, DateTime.secondsAfter, hleap]
  simp

/-- A pickup is no leap second, even if the arrival is one. -/
theorem not_isLeapSecond_of_time? {arrival pickup : DateTime} {terminal : String}
    (h : time? arrival (bufferFor terminal) = some pickup) : pickup.isLeapSecond = false := by
  exact DateTime.not_isLeapSecond_of_addMinutes? (Int.ne_of_gt (bufferFor_pos terminal)) h

/-- An arrival with a pickup in the calendar can be stored and read back with it. -/
theorem isReadable_of_time? {arrival pickup : DateTime} {terminal : String}
    (h : time? arrival (bufferFor terminal) = some pickup) :
    (WallClock.ofDateTime arrival).isReadable = true ∧
      (WallClock.ofDateTime pickup).isReadable = true := by
  exact WallClock.isReadable_of_addMinutes? (bufferFor_pos terminal) h

end ShuttleDesk.Pickup
