import CaptureSieve.Instant.Calendar
import Mathlib.Logic.Function.Iterate
import Mathlib.Tactic.IntervalCases

/-!
The dates of the Gregorian calendar, counted day by day from 1 January 1970. Years are taken from March to February, so
that a leap day is the last of its year.
-/

namespace CaptureSieve.CalendarDate

def IsLeap (year : Nat) : Prop := 4 ∣ year ∧ (100 ∣ year → 400 ∣ year)

instance (year : Nat) : Decidable (IsLeap year) := inferInstanceAs (Decidable (_ ∧ _))

def monthLength (year month : Nat) : Nat :=
  if month = 2 then if IsLeap year then 29 else 28
  else if month = 4 ∨ month = 6 ∨ month = 9 ∨ month = 11 then 30
  else 31

def next (d : CalendarDate) : CalendarDate :=
  if d.day < monthLength d.year d.month then { d with day := d.day + 1 }
  else if d.month < 12 then ⟨d.year, d.month + 1, 1⟩
  else ⟨d.year + 1, 1, 1⟩

def epoch : CalendarDate := ⟨1970, 1, 1⟩

/-- The days from 1 March to the first of a later month. -/
def monthStart (month : Nat) : Nat := (153 * month + 2) / 5

def ofMonth (year month day : Nat) : CalendarDate :=
  ⟨if month < 10 then year else year + 1, if month < 10 then month + 3 else month - 9, day + 1⟩

def fromMarch (year day : Nat) : CalendarDate :=
  ofMonth year ((5 * day + 2) / 153) (day - monthStart ((5 * day + 2) / 153))

def marchStart (year : Nat) : Nat := 365 * year + year / 4 - year / 100 + year / 400

def marchLength (year : Nat) : Nat := if IsLeap (year + 1) then 366 else 365

lemma marchLength_of_leap {year : Nat} (h : IsLeap (year + 1)) : marchLength year = 366 := if_pos h

lemma marchLength_of_common {year : Nat} (h : ¬ IsLeap (year + 1)) : marchLength year = 365 := if_neg h

lemma marchStart_succ (year : Nat) : marchStart (year + 1) = marchStart year + marchLength year := by
  have hleast : year / 100 ≤ 365 * year := by omega
  by_cases hfour : 4 ∣ year + 1
  · by_cases hcentury : 100 ∣ year + 1
    · by_cases hcycle : 400 ∣ year + 1
      · rw [marchLength_of_leap ⟨hfour, fun _ => hcycle⟩]
        simp only [marchStart, Nat.succ_div_of_dvd hfour, Nat.succ_div_of_dvd hcentury, Nat.succ_div_of_dvd hcycle]
        omega
      · rw [marchLength_of_common fun h => hcycle (h.2 hcentury)]
        simp only [marchStart, Nat.succ_div_of_dvd hfour, Nat.succ_div_of_dvd hcentury, Nat.succ_div_of_not_dvd hcycle]
        omega
    · have hcycle : ¬ 400 ∣ year + 1 := fun h => hcentury (Nat.dvd_trans (by decide) h)
      rw [marchLength_of_leap ⟨hfour, fun h => absurd h hcentury⟩]
      simp only [marchStart, Nat.succ_div_of_dvd hfour, Nat.succ_div_of_not_dvd hcentury,
        Nat.succ_div_of_not_dvd hcycle]
      omega
  · have hcentury : ¬ 100 ∣ year + 1 := fun h => hfour (Nat.dvd_trans (by decide) h)
    have hcycle : ¬ 400 ∣ year + 1 := fun h => hfour (Nat.dvd_trans (by decide) h)
    rw [marchLength_of_common fun h => hfour h.1]
    simp only [marchStart, Nat.succ_div_of_not_dvd hfour, Nat.succ_div_of_not_dvd hcentury,
      Nat.succ_div_of_not_dvd hcycle]
    omega

lemma day_of_march {c q a day : Nat} (hc : c < 4) (hq : q < 25) (ha : a < 4)
    (h : day < marchLength (100 * c + 4 * q + a)) : day ≤ 364 ∨ day = 365 ∧ a = 3 ∧ (q < 24 ∨ c = 3) := by
  by_cases hleap : IsLeap (100 * c + 4 * q + a + 1)
  · rw [marchLength_of_leap hleap] at h
    simp only [IsLeap] at hleap
    omega
  · rw [marchLength_of_common hleap] at h
    omega

lemma div_365 (day : Nat) {year x : Nat} (h : x = 365 * year + day) (hday : day < 365) : x / 365 = year :=
  Nat.div_eq_of_lt_le (by omega) (by omega)

-- A year of 366 days has one more than 365 only at its end, where its four years have 1460 days behind them.
lemma year_of_march {y day : Nat} (hy : y < 400) (h : day < marchLength y) :
    (marchStart y + day - (marchStart y + day) / 1460 + (marchStart y + day) / 36524 -
      (marchStart y + day) / 146096) / 365 = y := by
  obtain ⟨c, q, a, hc, hq, ha, rfl⟩ : ∃ c q a, c < 4 ∧ q < 25 ∧ a < 4 ∧ y = 100 * c + 4 * q + a :=
    ⟨y / 100, y % 100 / 4, y % 4, by omega, by omega, by omega, by omega⟩
  have hstart : marchStart (100 * c + 4 * q + a) = 36524 * c + 1461 * q + 365 * a := by
    simp only [marchStart]
    omega
  have hday := day_of_march hc hq ha h
  clear h
  rw [hstart]
  generalize hx : 36524 * c + 1461 * q + 365 * a + day = x
  have hcentury : 36524 * c ≤ x ∧ (x < 36524 * (c + 1) ∨ c = 3 ∧ x = 146096) := by omega
  rcases hcentury with ⟨hleast, hlt | ⟨rfl, rfl⟩⟩
  · have hcenturies : x / 36524 = c := Nat.div_eq_of_lt_le (by omega) (by omega)
    have hlast : x / 146096 = 0 := Nat.div_eq_of_lt (by omega)
    rw [hcenturies, hlast]
    rcases Nat.lt_or_ge (24 * c + q + 365 * a + day) 1460 with hfew | hmany
    · have hquads : x / 1460 = 25 * c + q := Nat.div_eq_of_lt_le (by omega) (by omega)
      rw [hquads]
      exact div_365 day (by omega) (by omega)
    · have hquads : x / 1460 = 25 * c + q + 1 := Nat.div_eq_of_lt_le (by omega) (by omega)
      rw [hquads]
      exact div_365 (day - 1) (by omega) (by omega)
  · omega

lemma marchStart_add (k y : Nat) : marchStart (400 * k + y) = 146097 * k + marchStart y := by
  have hleast : y / 100 ≤ 365 * y := by omega
  have hfours : (400 * k + y) / 4 = 100 * k + y / 4 := by omega
  have hcenturies : (400 * k + y) / 100 = 4 * k + y / 100 := by omega
  have hcycles : (400 * k + y) / 400 = k + y / 400 := by omega
  simp only [marchStart, hfours, hcenturies, hcycles]
  omega

lemma marchLength_add (k y : Nat) : marchLength (400 * k + y) = marchLength y := by
  have hleap : IsLeap (400 * k + y + 1) ↔ IsLeap (y + 1) := by
    simp only [IsLeap]
    omega
  simp only [marchLength, hleap]

lemma day_lt_cycle {y day : Nat} (hy : y < 400) (h : day < marchLength y) : marchStart y + day < 146097 := by
  have hnext := marchStart_succ y
  have hlast : marchStart (y + 1) ≤ 146097 := by
    simp only [marchStart]
    omega
  omega

lemma ofDays_of_march {n year day : Nat} (h : n + 719468 = marchStart year + day) (hday : day < marchLength year) :
    ofDays n = fromMarch year day := by
  obtain ⟨k, y, hy, rfl⟩ : ∃ k y, y < 400 ∧ year = 400 * k + y := ⟨year / 400, year % 400, by omega, by omega⟩
  rw [marchLength_add] at hday
  rw [marchStart_add, Nat.add_assoc] at h
  have hlt := day_lt_cycle hy hday
  have hcycle : (n + 719468) / 146097 = k := by
    rw [h, Nat.mul_add_div (by decide), Nat.div_eq_of_lt hlt, Nat.add_zero]
  have hrest : (n + 719468) % 146097 = marchStart y + day := by
    rw [h, Nat.mul_add_mod, Nat.mod_eq_of_lt hlt]
  have hstart : marchStart y = 365 * y + y / 4 - y / 100 := by
    simp only [marchStart, Nat.div_eq_of_lt hy, Nat.add_zero]
  have hofyear : marchStart y + day - (365 * y + y / 4 - y / 100) = day := by
    rw [hstart, Nat.add_sub_cancel_left]
  simp only [ofDays, hcycle, hrest, year_of_march hy hday, hofyear, fromMarch, ofMonth, monthStart]

lemma marchLength_bounds (year : Nat) : 365 ≤ marchLength year ∧ marchLength year ≤ 366 := by
  rw [marchLength]
  split <;> decide

lemma month_end (year : Nat) {m : Nat} (hm : m < 12) (d : Nat) :
    monthStart m + monthLength (ofMonth year m d).year (ofMonth year m d).month =
      min (monthStart (m + 1)) (marchLength year) := by
  have hlength := marchLength_bounds year
  rcases Nat.lt_or_eq_of_le (Nat.le_of_lt_succ hm) with hm | rfl
  · have hnext : monthStart m + monthLength (ofMonth year m d).year (ofMonth year m d).month = monthStart (m + 1) := by
      interval_cases m <;> rfl
    rw [hnext, Nat.min_eq_left]
    simp only [monthStart]
    omega
  · rw [Nat.min_eq_right (Nat.le_trans hlength.2 (by decide))]
    by_cases h : IsLeap (year + 1)
    · simp [marchLength, monthStart, monthLength, ofMonth, h]
    · simp [marchLength, monthStart, monthLength, ofMonth, h]

lemma fromMarch_of_month (year : Nat) {m d : Nat} (h : monthStart m + d < monthStart (m + 1)) :
    fromMarch year (monthStart m + d) = ofMonth year m d := by
  have hmonth : (5 * (monthStart m + d) + 2) / 153 = m := by
    simp only [monthStart] at h ⊢
    omega
  rw [fromMarch, hmonth, Nat.add_sub_cancel_left]

lemma exists_month {year day : Nat} (h : day < marchLength year) :
    ∃ m d, m < 12 ∧ day = monthStart m + d ∧ monthStart m + d < monthStart (m + 1) := by
  have hlength := marchLength_bounds year
  refine ⟨(5 * day + 2) / 153, day - monthStart ((5 * day + 2) / 153), by omega, ?_, ?_⟩
  · simp only [monthStart]
    omega
  · simp only [monthStart]
    omega

lemma next_of_month_end {year m d : Nat} (hm : m < 12)
    (h : d + 1 = monthLength (ofMonth year m d).year (ofMonth year m d).month) :
    (ofMonth year m d).next = ofMonth year (m + 1) 0 := by
  rw [next, if_neg (show ¬ (ofMonth year m d).day < _ from Nat.not_lt.mpr (Nat.le_of_eq h.symm))]
  interval_cases m <;> rfl

lemma next_within {year day : Nat} (h : day + 1 < marchLength year) :
    (fromMarch year day).next = fromMarch year (day + 1) := by
  obtain ⟨m, d, hm, rfl, hd⟩ := exists_month (Nat.lt_of_succ_lt h)
  have hend := month_end year hm d
  rw [fromMarch_of_month year hd]
  by_cases hroom : d + 1 < monthLength (ofMonth year m d).year (ofMonth year m d).month
  · rw [next, if_pos (show (ofMonth year m d).day < _ from hroom), Nat.add_assoc, fromMarch_of_month year (by omega)]
    rfl
  · have hnext : monthStart m + d + 1 = monthStart (m + 1) + 0 := by omega
    have hlater : monthStart (m + 1) < monthStart (m + 1 + 1) := by
      simp only [monthStart]
      omega
    rw [next_of_month_end hm (by omega), hnext, fromMarch_of_month year hlater]

lemma next_last {year day : Nat} (h : day + 1 = marchLength year) :
    (fromMarch year day).next = fromMarch (year + 1) 0 := by
  obtain ⟨m, d, hm, rfl, hd⟩ := exists_month (Nat.lt_of_succ_le (Nat.le_of_eq h))
  have hlength := marchLength_bounds year
  obtain rfl : m = 11 := by
    simp only [monthStart] at hd h
    omega
  have hend := month_end year hm d
  rw [fromMarch_of_month year hd, next_of_month_end hm (by omega)]
  rfl

lemma iterate_next (n : Nat) : ∃ year day, n + 719468 = marchStart year + day ∧ day < marchLength year ∧
    next^[n] epoch = fromMarch year day := by
  induction n with
  | zero => exact ⟨1969, 306, by decide, by decide, by decide⟩
  | succ n ih =>
    obtain ⟨year, day, hn, hday, hdate⟩ := ih
    rw [Function.iterate_succ_apply', hdate]
    rcases Nat.lt_or_eq_of_le (Nat.succ_le_of_lt hday) with hlt | hlast
    · exact ⟨year, day + 1, by omega, hlt, next_within hlt⟩
    · have hyear := marchStart_succ year
      have hpositive := (marchLength_bounds (year + 1)).1
      exact ⟨year + 1, 0, by omega, by omega, next_last hlast⟩

structure Valid (d : CalendarDate) : Prop where
  month : 1 ≤ d.month ∧ d.month ≤ 12
  day : 1 ≤ d.day ∧ d.day ≤ monthLength d.year d.month

lemma monthLength_bounds (year month : Nat) : 1 ≤ monthLength year month ∧ monthLength year month ≤ 31 := by
  rw [monthLength]
  split
  · split <;> decide
  · split <;> decide

lemma Valid.next {d : CalendarDate} (h : d.Valid) : d.next.Valid := by
  obtain ⟨hmonth, hday⟩ := h
  rw [CalendarDate.next]
  split
  · next hroom => exact ⟨hmonth, Nat.le_add_left 1 _, hroom⟩
  · split
    · next hlater => exact ⟨⟨Nat.le_add_left 1 _, hlater⟩, Nat.le_refl 1, (monthLength_bounds _ _).1⟩
    · exact ⟨⟨Nat.le_refl 1, Nat.le_of_ble_eq_true rfl⟩, Nat.le_refl 1, (monthLength_bounds _ _).1⟩

lemma valid_iterate (n : Nat) : (next^[n] epoch).Valid := by
  induction n with
  | zero => exact ⟨by decide, by decide⟩
  | succ n ih =>
    rw [Function.iterate_succ_apply']
    exact ih.next

theorem ofDays_eq_iterate (n : Nat) : ofDays n = next^[n] epoch := by
  obtain ⟨year, day, hn, hday, hdate⟩ := iterate_next n
  rw [hdate, ofDays_of_march hn hday]

end CaptureSieve.CalendarDate
