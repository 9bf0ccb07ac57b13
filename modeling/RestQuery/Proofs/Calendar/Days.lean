import Mathlib.Tactic.IntervalCases
import RestQuery.Calendar.Moment

/-!
# Days and their numbers

The days that the calendar has are those of the Gregorian calendar.  Their numbers run through the
years without a gap, and the day that is found for a number has that number.

Main statements: `Date.exists?_iff` and `Date.number_ofNumber`.
-/

namespace RestQuery

namespace Date

/-! ## The calendar -/

/-- Whether the Gregorian calendar has a day: the months have their lengths, and February has a
leap day every four years, in centuries only every four hundred. -/
def IsGregorian (year : Int) (month day : Nat) : Prop :=
  1 ≤ month ∧ month ≤ 12 ∧ 1 ≤ day ∧ day ≤
    if month = 2 then if 4 ∣ year ∧ (100 ∣ year → 400 ∣ year) then 29 else 28
    else if month ∈ [4, 6, 9, 11] then 30 else 31

instance (year : Int) (month day : Nat) : Decidable (IsGregorian year month day) :=
  inferInstanceAs (Decidable (_ ∧ _ ∧ _ ∧ _))

theorem isLeap_iff {year : Int} :
    isLeap year = true ↔ 4 ∣ year ∧ (100 ∣ year → 400 ∣ year) := by
  simp only [isLeap, Bool.and_eq_true, Bool.or_eq_true, beq_iff_eq, bne_iff_ne]
  omega

/-- The days that there are are those of the Gregorian calendar. -/
theorem exists?_iff {date : Date} :
    date.exists? = true ↔ IsGregorian date.year date.month date.day := by
  obtain ⟨year, month, day⟩ := date
  simp only [exists?, Bool.and_eq_true, decide_eq_true_eq, IsGregorian, ← isLeap_iff]
  by_cases hmonth : 1 ≤ month ∧ month ≤ 12
  · obtain ⟨hfirst, hlast⟩ := hmonth
    interval_cases month <;> simp [daysIn, monthLengths]
  · have hnone : daysIn year month = 0 := by
      rw [daysIn]
      split
      next => rfl
      next hzero =>
        rw [List.getElem?_eq_none (by simp [monthLengths]; omega)]
        rfl
    omega

/-! ## Years -/

theorem daysBefore_mono {earlier later : Int} (hle : earlier ≤ later) :
    daysBefore earlier ≤ daysBefore later := by
  simp only [daysBefore]
  omega

/-- A day lies between the start of its year and the start of the next. -/
theorem yearAt_spec (days : Int) :
    daysBefore (yearAt days) ≤ days ∧ days < daysBefore (yearAt days + 1) := by
  simp only [yearAt]
  split
  next hlow =>
    simp only [daysBefore] at hlow ⊢
    omega
  split
  next hlow hhigh =>
    simp only [daysBefore] at hlow hhigh ⊢
    omega
  next hlow hhigh =>
    simp only [daysBefore] at hlow hhigh ⊢
    omega

/-! ## Months -/

/-- A day of the year lies as many days after the start of its month as its number says. -/
theorem monthAt_spec {lengths : List Nat} {month day : Nat} (hday : day < lengths.sum) :
    ∃ months day', monthAt month day lengths = (month + months, day' + 1) ∧
      (lengths.take months).sum + day' = day := by
  induction lengths generalizing month day with
  | nil => cases hday
  | cons length rest ih =>
      rw [monthAt]
      split
      next => exact ⟨0, day, rfl, Nat.zero_add day⟩
      next hle =>
        rw [List.sum_cons] at hday
        obtain ⟨months, left, hmonth, hsum⟩ := @ih (month + 1) (day - length) (by omega)
        refine ⟨months + 1, left, ?_, ?_⟩
        · rw [hmonth, Nat.add_assoc, Nat.add_comm 1 months]
        · rw [List.take_succ_cons, List.sum_cons]
          omega

theorem daysBeforeMonth_succ (year : Int) (months : Nat) :
    daysBeforeMonth year (months + 1) = ((monthLengths year).take months).sum := by
  rw [daysBeforeMonth, Nat.add_sub_cancel, List.sum_eq_foldl]

/-- A year is as long as its months together. -/
theorem length_year (year : Int) :
    daysBefore (year + 1) = daysBefore year + (monthLengths year).sum := by
  rw [daysBefore_succ, daysBeforeMonth_succ]
  rfl

/-! ## Numbers -/

/-- The day with a number has this number. -/
theorem number_ofNumber (number : Int) : (ofNumber number).number = number := by
  obtain ⟨hstart, hend⟩ := yearAt_spec (number + daysBefore 2000)
  rw [length_year] at hend
  have hday : (number + daysBefore 2000 - daysBefore (yearAt (number + daysBefore 2000))).toNat <
      (monthLengths (yearAt (number + daysBefore 2000))).sum := by omega
  obtain ⟨months, left, hmonth, hsum⟩ := @monthAt_spec _ 1 _ hday
  rw [ofNumber, hmonth, Date.number]
  simp only [Nat.add_comm 1 months, daysBeforeMonth_succ]
  omega

theorem sum_take_add_le {lengths : List Nat} {place length : Nat}
    (hlength : lengths[place]? = some length) :
    (lengths.take place).sum + length ≤ lengths.sum := by
  obtain ⟨hplace, rfl⟩ := List.getElem?_eq_some_iff.1 hlength
  have hsplit := congrArg List.sum (List.take_append_drop place lengths)
  rw [List.sum_append, List.drop_eq_getElem_cons hplace, List.sum_cons] at hsplit
  omega

/-- The days of a year have numbers from its start to the start of the next. -/
theorem number_bounds {date : Date} (hexists : date.exists? = true) :
    daysBefore date.year ≤ date.number + daysBefore 2000 ∧
      date.number + daysBefore 2000 < daysBefore (date.year + 1) := by
  rw [exists?, Bool.and_eq_true, decide_eq_true_eq, decide_eq_true_eq, daysIn] at hexists
  obtain ⟨hfirst, hlast⟩ := hexists
  split at hlast
  next => omega
  next hmonth =>
    cases hlength : (monthLengths date.year)[date.month - 1]? with
    | none =>
      rw [hlength] at hlast
      exact absurd (Nat.le_trans hfirst hlast) (by decide)
    | some length =>
      rw [hlength, Option.getD_some] at hlast
      have hsum := sum_take_add_le hlength
      have hbefore := daysBeforeMonth_succ date.year (date.month - 1)
      rw [Nat.sub_add_cancel (Nat.one_le_iff_ne_zero.2 hmonth)] at hbefore
      rw [length_year, number, hbefore]
      omega

/-- Instants have all days of the years of four digits. -/
theorem number_mem {date : Date} (hexists : date.exists? = true) (hfirst : 0 ≤ date.year)
    (hlast : date.year < 10000) : firstDay ≤ date.number ∧ date.number ≤ lastDay := by
  obtain ⟨hlow, hhigh⟩ := number_bounds hexists
  have hstart : daysBefore 0 ≤ daysBefore date.year := daysBefore_mono hfirst
  have hend : daysBefore (date.year + 1) ≤ daysBefore 10000 := daysBefore_mono hlast
  have hfirstDay : firstDay ≤ daysBefore 0 - daysBefore 2000 := by decide
  have hlastDay : daysBefore 10000 - daysBefore 2000 ≤ lastDay := by decide
  omega

end Date

end RestQuery
