import RestQuery.Calendar.Moment
import RestQuery.Text.Blank

/-!
# Reading dates and times

A date is read in the form of the internet standard, with an offset, else as a date and a time
without one, else as a bare date; the latter two are in UTC.  The standard's form has digits
in fixed places.  The other two allow blanks before each number, fewer digits, and a sign
before the year, with which the year may have any number of digits.

The written form of a moment needs a reader with the latitude of both, an offset and years of
any number of digits: the loose form.
-/

namespace RestQuery.Calendar

/-- Reads from the start of a text; what is left over is the state. -/
abbrev Reader := StateT (List Char) Option

def literal (c : Char) : Reader Unit := fun cs =>
  match cs with
  | first :: rest => if first = c then some ((), rest) else none
  | [] => none

/-- Reads digits, at least one and at most so many. -/
def digits (most : Nat) : Reader (List Char) := fun cs =>
  let read := (cs.take most).takeWhile Char.isDigit
  if read.isEmpty then none else some (read, cs.drop read.length)

def exactly (count : Nat) : Reader Nat := do
  let read ← digits count
  if read.length = count then return Nat.ofDigitChars 10 read 0 else failure

/-- Reads a number of at most so many digits, which blanks may precede. -/
def upTo (most : Nat) : Reader Nat := do
  modify Text.trimStart
  let read ← digits most
  return Nat.ofDigitChars 10 read 0

def unlimited : Reader Nat := do
  let read ← digits (← get).length
  return Nat.ofDigitChars 10 read 0

/-- Reads a year, which blanks may precede: up to four digits, or a sign and any number. -/
def year : Reader Int := do
  modify Text.trimStart
  match ← get with
  | '-' :: rest => set rest; return -(← unlimited)
  | '+' :: rest => set rest; return (← unlimited)
  | _ => return Nat.ofDigitChars 10 (← digits 4) 0

/-- Reads a fraction of a second, if there is one, in nanoseconds.  Fewer than nine digits are
filled up with zeros, and digits after the ninth are passed over. -/
def fraction : Reader Nat := do
  match ← get with
  | '.' :: rest =>
    set rest
    let read ← digits 9
    modify (·.dropWhile Char.isDigit)
    return Nat.ofDigitChars 10 (read ++ List.replicate (9 - read.length) '0') 0
  | _ => return 0

def blanks : Reader Unit := modify Text.trimStart

def colonsAndBlanks : Reader Unit := modify (·.dropWhile fun c => c == ':' || Text.isBlank c)

/-- Reads an offset from UTC, in seconds: the letter for none, or a sign, hours and minutes
with something between them. -/
def offset (between : Reader Unit) : Reader Int := do
  match ← get with
  | sign :: rest =>
    set rest
    if sign = 'Z' ∨ sign = 'z' then return 0
    else if sign = '+' ∨ sign = '-' ∨ sign = '−' then
      let hours ← exactly 2
      between
      let minutes ← exactly 2
      if hours < 24 ∧ minutes < 60 then
        let distance : Int := hours * 3600 + minutes * 60
        return if sign = '+' then distance else -distance
      else failure
    else failure
  | [] => failure

def timeMark : Reader Unit := fun cs =>
  match cs with
  | mark :: rest => if mark = 'T' ∨ mark = 't' ∨ mark = ' ' then some ((), rest) else none
  | [] => none

/-- The standard's form. -/
def standard : Reader Moment := do
  let year ← exactly 4
  literal '-'
  let month ← exactly 2
  literal '-'
  let day ← exactly 2
  timeMark
  let hour ← exactly 2
  literal ':'
  let minute ← exactly 2
  literal ':'
  let second ← exactly 2
  let nano ← fraction
  let offset ← offset (literal ':')
  let clock ← (Clock.ofParts? hour minute second nano : Option Clock)
  (Moment.ofLocal? ⟨year, month, day⟩ clock offset : Option Moment)

def bareDate : Reader Date := do
  let year ← year
  literal '-'
  let month ← upTo 2
  literal '-'
  let day ← upTo 2
  return ⟨year, month, day⟩

def dateTime : Reader Moment := do
  let date ← bareDate
  literal 'T'
  let hour ← upTo 2
  literal ':'
  let minute ← upTo 2
  literal ':'
  let second ← upTo 2
  let nano ← fraction
  let clock ← (Clock.ofParts? hour minute second nano : Option Clock)
  (Moment.ofLocal? date clock 0 : Option Moment)

def startOfDay : Reader Moment := do
  let date ← bareDate
  (Moment.ofLocal? date .midnight 0 : Option Moment)

/-- Reads an offset from UTC in the loose form, which may also be the abbreviation for none. -/
def looseOffset : Reader Int := do
  match ← get with
  | first :: second :: third :: rest =>
    if [first, second, third].map Char.toUpper = ['U', 'T', 'C'] then
      set rest
      return 0
    else offset colonsAndBlanks
  | _ => offset colonsAndBlanks

/-- The loose form: blanks may stand around every part, and the numbers are those of a date
and a time without an offset. -/
def loose : Reader Moment := do
  let year ← year
  blanks
  literal '-'
  let month ← upTo 2
  blanks
  literal '-'
  let day ← upTo 2
  timeMark
  let hour ← upTo 2
  blanks
  literal ':'
  let minute ← upTo 2
  blanks
  literal ':'
  let second ← upTo 2
  let nano ← fraction
  blanks
  let offset ← looseOffset
  blanks
  let clock ← (Clock.ofParts? hour minute second nano : Option Clock)
  (Moment.ofLocal? ⟨year, month, day⟩ clock offset : Option Moment)

/-- What a reader makes of a whole text. -/
def Reader.whole? (reader : Reader α) (cs : List Char) : Option α :=
  match reader cs with
  | some (value, []) => some value
  | _ => none

def readLoose? (s : String) : Option Moment := Reader.whole? loose s.toList

def read? (s : String) : Option Moment :=
  let cs := Text.trimChars s.toList
  (Reader.whole? standard cs).or ((Reader.whole? dateTime cs).or (Reader.whole? startOfDay cs))

end RestQuery.Calendar
