/-
  ShuttleDesk/Proofs/Calendar/Clock.lean
  ======================================
  Adding minutes is what a clock does in that time.

  The clock ticks from second to second, and at midnight the calendar goes on to the next
  day; neither knows how days are counted.  A tick is one more in the count of seconds, and
  there is one before the calendar ends, so that the clock shows the sum of two counts after
  that many ticks, and nothing else shows it.  What is known of pickup times follows from
  sums: two buffers one after the other, back again, and which pickup is the earlier one.
-/
import ShuttleDesk.Proofs.Calendar.DayCount

namespace ShuttleDesk

namespace Calendar.DateTime

variable {t u v : DateTime} {n : Nat}

/-! ### Ticks -/

/-- The clock shows one and then the other, without a leap second between them. -/
inductive Ticks (t u : DateTime) : Prop where
  | inMinute (date : u.date = t.date) (hour : u.hour = t.hour) (minute : u.minute = t.minute)
      (second : u.second = t.second + 1) (noLeap : u.second ≤ 59)
  | inHour (date : u.date = t.date) (hour : u.hour = t.hour) (minute : u.minute = t.minute + 1)
      (before : t.second = 59) (after : u.second = 0)
  | inDay (date : u.date = t.date) (hour : u.hour = t.hour + 1)
      (before : t.minute = 59 ∧ t.second = 59) (after : u.minute = 0 ∧ u.second = 0)
  | midnight (date : t.date.IsNext u.date) (before : t.hour = 23 ∧ t.minute = 59 ∧ t.second = 59)
      (after : u.hour = 0 ∧ u.minute = 0 ∧ u.second = 0)

theorem Ticks.seconds (h : t.Ticks u) : u.seconds = t.seconds + 1 := by
  unfold DateTime.seconds secondOfDay secondsPerDay
  cases h with
  | inMinute hdate hhour hminute hsecond => rw [hdate, hhour, hminute, hsecond]; omega
  | inHour hdate hhour hminute hbefore hafter => rw [hdate, hhour, hminute, hbefore, hafter]; omega
  | inDay hdate hhour hbefore hafter => rw [hdate, hhour]; omega
  | midnight hdate hbefore hafter => rw [hdate.number]; omega

theorem Ticks.not_isLeapSecond (h : t.Ticks u) : u.isLeapSecond = false := by
  simp only [isLeapSecond, beq_eq_false_iff_ne, ne_eq]
  cases h <;> omega

/-- The clock ticks on until the last second of the last day. -/
theorem exists_ticks (ht : t.isLeapSecond = false) (hlt : t.seconds + 1 < last.seconds) :
    ∃ u, t.Ticks u := by
  obtain ⟨date, hour, minute, second, htime⟩ := t
  obtain ⟨hhour, hminute, hsecond⟩ := id htime
  simp only [isLeapSecond, beq_eq_false_iff_ne, ne_eq] at ht
  by_cases hs : second < 59
  · exact ⟨⟨date, hour, minute, second + 1, hhour, hminute, by omega⟩,
      .inMinute rfl rfl rfl rfl hs⟩
  obtain rfl : second = 59 := by omega
  by_cases hm : minute < 59
  · exact ⟨⟨date, hour, minute + 1, 0, hhour, by omega, by omega⟩, .inHour rfl rfl rfl rfl rfl⟩
  obtain rfl : minute = 59 := by omega
  by_cases hh : hour < 23
  · exact ⟨⟨date, hour + 1, 0, 0, by omega, by omega, by omega⟩,
      .inDay rfl rfl ⟨rfl, rfl⟩ ⟨rfl, rfl⟩⟩
  obtain rfl : hour = 23 := by omega
  have hday : date ≠ Date.last := by
    rintro rfl
    rw [last_seconds] at hlt
    simp only [seconds, secondOfDay, secondsPerDay] at hlt
    omega
  obtain ⟨next, hnext⟩ := Date.exists_isNext hday
  exact ⟨⟨next, 0, 0, 0, by decide⟩, .midnight hnext ⟨rfl, rfl, rfl⟩ ⟨rfl, rfl, rfl⟩⟩

/-- The clock shows one and, so many ticks later, the other. -/
inductive Elapsed : Nat → DateTime → DateTime → Prop where
  | zero (t : DateTime) : Elapsed 0 t t
  | succ {n : Nat} {t u v : DateTime} (h : Elapsed n t u) (tick : u.Ticks v) : Elapsed (n + 1) t v

theorem Elapsed.seconds (h : Elapsed n t u) : u.seconds = t.seconds + n := by
  induction h with
  | zero => omega
  | succ _ htick ih =>
    rw [htick.seconds, ih]
    omega

theorem Elapsed.not_isLeapSecond (h : Elapsed n t u) (ht : t.isLeapSecond = false) :
    u.isLeapSecond = false := by
  cases h with
  | zero => exact ht
  | succ _ htick => exact htick.not_isLeapSecond

theorem exists_elapsed (ht : t.isLeapSecond = false) (hlt : t.seconds + n < last.seconds) :
    ∃ u, Elapsed n t u := by
  induction n with
  | zero => exact ⟨t, .zero t⟩
  | succ n ih =>
    obtain ⟨u, hu⟩ := ih (by omega)
    have hseconds := hu.seconds
    obtain ⟨v, hv⟩ := exists_ticks (hu.not_isLeapSecond ht) (by omega)
    exact ⟨v, hu.succ hv⟩

theorem elapsed_iff (ht : t.isLeapSecond = false) (hu : u.isLeapSecond = false) :
    Elapsed n t u ↔ u.seconds = t.seconds + n := by
  refine ⟨Elapsed.seconds, fun h => ?_⟩
  have hbounds := seconds_bounds hu
  obtain ⟨v, hv⟩ := exists_elapsed (n := n) ht (by omega)
  have hsame : v.seconds = u.seconds := by rw [hv.seconds, h]
  rwa [← eq_of_seconds_eq (hv.not_isLeapSecond ht) hu hsame]

/-- The clock shows the other so many seconds after the one; if their number is negative, so many
before it. -/
def IsApart (t : DateTime) : Int → DateTime → Prop
  | .ofNat n, u => Elapsed n t u
  | .negSucc n, u => Elapsed (n + 1) u t

theorem isApart_iff {n : Int} (ht : t.isLeapSecond = false) (hu : u.isLeapSecond = false) :
    t.IsApart n u ↔ u.seconds = t.seconds + n := by
  cases n with
  | ofNat n => exact elapsed_iff ht hu
  | negSucc n =>
    rw [IsApart, elapsed_iff hu ht, Int.negSucc_eq]
    omega

/-! ### The order of times -/

def numbers (t : DateTime) : List Int :=
  [t.date.year, t.date.month, t.date.day, t.hour, t.minute, t.second]

/-- The first number that differs, from the year on, is less. -/
def Before (t u : DateTime) : Prop := t.numbers < u.numbers

instance (t u : DateTime) : Decidable (t.Before u) :=
  inferInstanceAs (Decidable (t.numbers < u.numbers))

theorem Ticks.before (h : t.Ticks u) : t.Before u := by
  simp only [Before, numbers, List.cons_lt_cons_iff]
  cases h with
  | inMinute hdate hhour hminute hsecond =>
    rw [hdate]
    omega
  | inHour hdate hhour hminute =>
    rw [hdate]
    omega
  | inDay hdate hhour =>
    rw [hdate]
    omega
  | midnight hdate => cases hdate <;> omega

theorem Elapsed.before (h : Elapsed (n + 1) t u) : t.Before u := by
  induction n generalizing u with
  | zero =>
    cases h with
    | succ hnone htick =>
      cases hnone
      exact htick.before
  | succ n ih =>
    cases h with
    | succ hmost htick => exact List.lt_trans (ih hmost) htick.before

/-- The order of the numbers is the order in which the clock shows them. -/
theorem before_iff (ht : t.isLeapSecond = false) (hu : u.isLeapSecond = false) :
    t.Before u ↔ t.seconds < u.seconds := by
  have hlater : ∀ {t u : DateTime}, t.isLeapSecond = false → u.isLeapSecond = false →
      t.seconds < u.seconds → t.Before u := by
    intro t u ht hu hlt
    obtain ⟨n, hn⟩ : ∃ n : Nat, u.seconds = t.seconds + (n + 1 : Nat) :=
      ⟨(u.seconds - t.seconds - 1).toNat, by omega⟩
    exact ((elapsed_iff ht hu).2 hn).before
  refine ⟨fun h => ?_, hlater ht hu⟩
  rcases Int.lt_trichotomy t.seconds u.seconds with hlt | heq | hgt
  · exact hlt
  · rw [eq_of_seconds_eq ht hu heq] at h
    exact absurd h (List.lt_irrefl _)
  · exact absurd h (List.lt_asymm (hlater hu ht hgt))

end Calendar.DateTime

namespace Pickup

open Calendar DateTime

variable {arrival pickup : DateTime} {buffer : Int}

theorem time?_eq_some_iff (h : arrival.isLeapSecond = false) :
    time? arrival buffer = some pickup ↔
      pickup.isLeapSecond = false ∧ pickup.seconds = arrival.seconds + 60 * buffer := by
  unfold time? addMinutes?
  rw [h, if_neg Bool.false_ne_true, Int.mul_comm]
  constructor
  · intro hpickup
    exact ⟨not_isLeapSecond_of_ofSeconds? hpickup, seconds_of_ofSeconds? hpickup⟩
  · rintro ⟨hleap, hseconds⟩
    rw [← hseconds]
    exact WallClock.toDateTime?_ofDateTime hleap

/-- A second buffer is added to the first. -/
theorem time?_time? (h : arrival.isLeapSecond = false)
    (hpickup : time? arrival buffer = some pickup) (more : Int) :
    time? pickup more = time? arrival (buffer + more) := by
  obtain ⟨hleap, hseconds⟩ := (time?_eq_some_iff h).1 hpickup
  ext later
  rw [time?_eq_some_iff hleap, time?_eq_some_iff h, hseconds, Int.mul_add, Int.add_assoc]

/-- The pickup for an arrival that is no leap second is what the clock shows when the minutes of the
buffer have passed, and nothing else is; there is none exactly if the calendar does not reach so
far.  One buffer after another is their sum, whether or not the sum stays in the calendar, and
the same minutes back lead back to the arrival.  The later of two arrivals has the later pickup,
and so has the longer of two buffers. -/
theorem time?_exact (arrival : DateTime) (buffer : Int) (h : arrival.isLeapSecond = false) :
    (∀ pickup, time? arrival buffer = some pickup ↔
      pickup.isLeapSecond = false ∧ arrival.IsApart (60 * buffer) pickup) ∧
    (time? arrival buffer = none ↔ arrival.seconds + 60 * buffer < DateTime.first.seconds ∨
      DateTime.last.seconds ≤ arrival.seconds + 60 * buffer) ∧
    (∀ pickup, time? arrival buffer = some pickup →
      (∀ more, time? pickup more = time? arrival (buffer + more)) ∧
      time? pickup (-buffer) = some arrival ∧
      (∀ later other, later.isLeapSecond = false → arrival.Before later →
        time? later buffer = some other → pickup.Before other) ∧
      (∀ longer other, buffer < longer → time? arrival longer = some other →
        pickup.Before other)) := by
  refine ⟨fun pickup => ?_, ?_, fun pickup hpickup => ⟨?_, ?_, ?_, ?_⟩⟩
  · rw [time?_eq_some_iff h]
    exact and_congr_right fun hleap => (isApart_iff h hleap).symm
  · unfold time? addMinutes?
    rw [h, if_neg Bool.false_ne_true, Int.mul_comm, ofSeconds?_eq_none_iff]
  · exact time?_time? h hpickup
  · rw [time?_time? h hpickup, time?_eq_some_iff h]
    exact ⟨h, by omega⟩
  · intro later other hlater hbefore hother
    obtain ⟨hleap, hseconds⟩ := (time?_eq_some_iff h).1 hpickup
    obtain ⟨hleap', hseconds'⟩ := (time?_eq_some_iff hlater).1 hother
    have hlt := (before_iff h hlater).1 hbefore
    rw [before_iff hleap hleap']
    omega
  · intro longer other hlt hother
    obtain ⟨hleap, hseconds⟩ := (time?_eq_some_iff h).1 hpickup
    obtain ⟨hleap', hseconds'⟩ := (time?_eq_some_iff h).1 hother
    rw [before_iff hleap hleap']
    omega

/-- An arrival late on the day before a leap day, with its pickup on the leap day. -/
theorem time?_exact_into_leapDay :
    let arrival : DateTime := ⟨⟨2024, 2, 28, by decide⟩, 23, 30, 0, by decide⟩
    let pickup : DateTime := ⟨⟨2024, 2, 29, by decide⟩, 0, 15, 0, by decide⟩
    arrival.isLeapSecond = false ∧ time? arrival 45 = some pickup ∧
    arrival.IsApart (60 * 45) pickup ∧ time? pickup (-45) = some arrival := by
  intro arrival pickup
  have hpickup : time? arrival 45 = some pickup := by decide +kernel
  obtain ⟨hexact, -, hback⟩ := time?_exact arrival 45 rfl
  exact ⟨rfl, hpickup, ((hexact pickup).1 hpickup).2, (hback pickup hpickup).2.1⟩

end Pickup
end ShuttleDesk
