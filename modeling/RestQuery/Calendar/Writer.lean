import RestQuery.Calendar.Moment

/-!
# Writing dates and times

Moments are written in the form of the internet standard.  A fraction has three, six or nine
digits, the fewest that say it exactly, and is left out when it is zero.  A year outside
0 to 9999 has a sign and at least four digits.
-/

namespace RestQuery

namespace Calendar

def padded (width n : Nat) : List Char :=
  let digits := Nat.toDigits 10 n
  List.replicate (width - digits.length) '0' ++ digits

def writeYear (year : Int) : List Char :=
  if year < 0 then '-' :: padded 4 year.natAbs
  else if year ≤ 9999 then padded 4 year.natAbs
  else '+' :: padded 4 year.natAbs

/-- A fraction of a second given in nanoseconds. -/
def writeFraction (nano : Nat) : List Char :=
  if nano = 0 then []
  else if nano % 1000000 = 0 then '.' :: padded 3 (nano / 1000000)
  else if nano % 1000 = 0 then '.' :: padded 6 (nano / 1000)
  else '.' :: padded 9 nano

/-- An offset from UTC given in seconds, rounded to the nearest minute. -/
def writeOffset (offset : Int) : List Char :=
  let minutes := (offset.natAbs + 30) / 60
  if offset = 0 then ['Z']
  else
    (if offset < 0 then '-' else '+') :: padded 2 (minutes / 60)
      ++ [':'] ++ padded 2 (minutes % 60)

def writeDate (date : Date) : List Char :=
  writeYear date.year ++ ['-'] ++ padded 2 date.month ++ ['-'] ++ padded 2 date.day

/-- A time of day; a leap second is the second after the one that it belongs to. -/
def writeClock (clock : Clock) : List Char :=
  let leap := clock.nano / 1000000000
  padded 2 clock.hour ++ [':'] ++ padded 2 clock.minute ++ [':'] ++ padded 2 (clock.second + leap)
    ++ writeFraction (clock.nano % 1000000000)

end Calendar

def Moment.text (moment : Moment) : String :=
  String.ofList
    (Calendar.writeDate moment.date ++ ['T'] ++ Calendar.writeClock moment.clock
      ++ Calendar.writeOffset moment.offset)

end RestQuery
