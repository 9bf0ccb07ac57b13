/-!
# Days of the Gregorian calendar

The proleptic Gregorian calendar: years of either sign, with a year zero.  Days are numbered
from the first of January 2000, which is day 0.

Main statement: `daysBefore_succ` says that a year is as long as its twelve months together.
-/

namespace RestQuery

structure Date where
  year : Int
  month : Nat
  day : Nat
  deriving DecidableEq, Repr

namespace Date

def isLeap (year : Int) : Bool := year % 4 == 0 && (year % 100 != 0 || year % 400 == 0)

def monthLengths (year : Int) : List Nat :=
  [31, if isLeap year then 29 else 28, 31, 30, 31, 30, 31, 31, 30, 31, 30, 31]

/-- The length of a month; 0 for what is no month. -/
def daysIn (year : Int) (month : Nat) : Nat :=
  if month = 0 then 0 else (monthLengths year)[month - 1]?.getD 0

def exists? (date : Date) : Bool := 1 ≤ date.day && date.day ≤ daysIn date.year date.month

def daysBefore (year : Int) : Int :=
  let past := year - 1
  365 * past + past / 4 - past / 100 + past / 400

def daysBeforeMonth (year : Int) (month : Nat) : Nat :=
  ((monthLengths year).take (month - 1)).foldl (· + ·) 0

def number (date : Date) : Int :=
  daysBefore date.year - daysBefore 2000 + daysBeforeMonth date.year date.month + (date.day - 1)

/-- The year of a day that many days after the start of year 1.  The mean length of a year
leads to the year itself or to one of its neighbours. -/
def yearAt (days : Int) : Int :=
  let guess := 400 * days / 146097 + 1
  if days < daysBefore guess then guess - 1
  else if daysBefore (guess + 1) ≤ days then guess + 1
  else guess

/-- The month and the day of the month for a day of the year, given the lengths of the months
that are left. -/
def monthAt (month day : Nat) : List Nat → Nat × Nat
  | [] => (month, day + 1)
  | length :: rest =>
    if day < length then (month, day + 1) else monthAt (month + 1) (day - length) rest

def ofNumber (number : Int) : Date :=
  let days := number + daysBefore 2000
  let year := yearAt days
  let (month, day) := monthAt 1 (days - daysBefore year).toNat (monthLengths year)
  ⟨year, month, day⟩

theorem daysBefore_succ (year : Int) :
    daysBefore (year + 1) = daysBefore year + daysBeforeMonth year 13 := by
  simp only [daysBefore, daysBeforeMonth, monthLengths, isLeap, List.take, List.foldl]
  by_cases h4 : year % 4 = 0 <;> by_cases h100 : year % 100 = 0 <;>
    by_cases h400 : year % 400 = 0 <;> simp [h4, h100, h400] <;> omega

example : (⟨2000, 1, 1⟩ : Date).number = 0 := by decide
example : ofNumber (-1) = ⟨1999, 12, 31⟩ := by decide
example : ofNumber 59 = ⟨2000, 2, 29⟩ := by decide

end Date

end RestQuery
