import RestQuery.Calendar.Date

/-!
# Instants and moments

An instant is a point of time in UTC to the nanosecond.  A moment is an instant as read on a
clock some seconds ahead of UTC.  A second of which a thousand million nanoseconds or more have
passed is a leap second, the sixtieth of its minute.
-/

namespace RestQuery

/-- The first and the last day that instants have: those of the years -262143 and 262142. -/
def firstDay : Int := (⟨-262143, 1, 1⟩ : Date).number

def lastDay : Int := (⟨262142, 12, 31⟩ : Date).number

structure Instant where
  /-- The number of the day in UTC. -/
  day : Int
  /-- The seconds that have passed of the day. -/
  second : Nat
  /-- The nanoseconds that have passed of the second. -/
  nano : Nat
  day_mem : firstDay ≤ day ∧ day ≤ lastDay
  second_lt : second < 86400
  nano_lt : nano < 2000000000
  deriving DecidableEq

/-- A point of time on a local clock. -/
structure Moment where
  instant : Instant
  /-- The seconds by which the clock is ahead of UTC. -/
  offset : Int
  offset_mem : -86400 < offset ∧ offset < 86400
  deriving DecidableEq

structure Clock where
  hour : Nat
  minute : Nat
  second : Nat
  nano : Nat
  deriving DecidableEq, Repr

namespace Clock

/-- The time of day for parts as written, where the second 60 is a leap second. -/
def ofParts? (hour minute second nano : Nat) : Option Clock :=
  if hour < 24 ∧ minute < 60 ∧ nano < 1000000000 then
    if second < 60 then some ⟨hour, minute, second, nano⟩
    else if second = 60 then some ⟨hour, minute, 59, nano + 1000000000⟩
    else none
  else none

/-- The seconds that have passed of the day. -/
def seconds (clock : Clock) : Nat := clock.hour * 3600 + clock.minute * 60 + clock.second

def midnight : Clock := ⟨0, 0, 0, 0⟩

end Clock

namespace Instant

/-- Seconds since the start of the year 2000, leap seconds not counted. -/
def seconds (instant : Instant) : Int := instant.day * 86400 + instant.second

/-- The instant of so many seconds and nanoseconds, if it is within range. -/
def ofSeconds? (seconds : Int) (nano : Nat) : Option Instant :=
  let day := seconds / 86400
  let second := (seconds % 86400).toNat
  if h : (firstDay ≤ day ∧ day ≤ lastDay) ∧ nano < 2000000000 then
    some ⟨day, second, nano, h.1, by omega, h.2⟩
  else none

/-- Microseconds since the start of the year 2000, without what is less than one. -/
def microseconds (instant : Instant) : Int :=
  (instant.seconds * 1000000000 + instant.nano).tdiv 1000

def utc (instant : Instant) : Moment := ⟨instant, 0, by decide⟩

end Instant

namespace Moment

/-- The moment at which a clock shows a date and a time, if there is one. -/
def ofLocal? (date : Date) (clock : Clock) (offset : Int) : Option Moment :=
  if offset_mem : -86400 < offset ∧ offset < 86400 then
    if date.exists? then
      (Instant.ofSeconds? (date.number * 86400 + clock.seconds - offset) clock.nano).map
        (⟨·, offset, offset_mem⟩)
    else none
  else none

def date (moment : Moment) : Date :=
  .ofNumber ((moment.instant.seconds + moment.offset) / 86400)

def clock (moment : Moment) : Clock :=
  let second := ((moment.instant.seconds + moment.offset) % 86400).toNat
  ⟨second / 3600, second / 60 % 60, second % 60, moment.instant.nano⟩

end Moment

end RestQuery
