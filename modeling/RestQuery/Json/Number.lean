import RestQuery.Binary64.Shortest

/-!
# Numerals and numbers

A numeral is an optional minus, an integer part without needless zeros, an optional fraction
and an optional power of ten.  A plain integer of 64 bits keeps its value; every other numeral
denotes a binary64 number.  That number is not always the nearest one: the numeral's leading
digits, as many as fit 64 bits, are scaled by one rounded power of ten, and a numeral whose
scaled value leaves the range denotes nothing.
-/

namespace RestQuery.Json

inductive Number where
  /-- An integer; those read from a text have at most 64 bits. -/
  | integer (n : Int)
  | real (x : Binary64)
  deriving DecidableEq

def Number.text : Number → List Char
  | .integer n => if n < 0 then '-' :: Nat.toDigits 10 n.natAbs else Nat.toDigits 10 n.natAbs
  | .real x => x.text

structure Numeral where
  negative : Bool
  whole : List Char
  /-- The digits behind the point. -/
  fraction : Option (List Char)
  power : Option Int

namespace Numeral

def areDigits (cs : List Char) : Bool := !cs.isEmpty && cs.all Char.isDigit

/-- The power of ten behind the exponent mark: digits with an optional sign. -/
def readPower : List Char → Option Int
  | '+' :: digits => if areDigits digits then some (Nat.ofDigitChars 10 digits 0) else none
  | '-' :: digits => if areDigits digits then some (-(Nat.ofDigitChars 10 digits 0 : Int)) else none
  | digits => if areDigits digits then some (Nat.ofDigitChars 10 digits 0) else none

/-- What may follow the integer part and the fraction: nothing or a power of ten. -/
def readTail (negative : Bool) (whole : List Char) (fraction : Option (List Char)) :
    List Char → Option Numeral
  | [] => some ⟨negative, whole, fraction, none⟩
  | mark :: power =>
    if mark = 'e' ∨ mark = 'E' then
      (readPower power).map fun n => ⟨negative, whole, fraction, some n⟩
    else none

def readUnsigned (negative : Bool) (cs : List Char) : Option Numeral :=
  let whole := cs.takeWhile Char.isDigit
  let rest := cs.dropWhile Char.isDigit
  if whole.isEmpty || (1 < whole.length && whole.head? == some '0') then none
  else
    match rest with
    | '.' :: more =>
      let fraction := more.takeWhile Char.isDigit
      if fraction.isEmpty then none
      else readTail negative whole (some fraction) (more.dropWhile Char.isDigit)
    | _ => readTail negative whole none rest

def read (cs : List Char) : Option Numeral :=
  match cs with
  | '-' :: more => readUnsigned true more
  | _ => readUnsigned false cs

/-- Appends digits to a significand while it fits 64 bits; also returns the digits left over. -/
def absorb (significand : Nat) : List Char → Nat × List Char
  | [] => (significand, [])
  | digit :: rest =>
    let longer := significand * 10 + (digit.toNat - '0'.toNat)
    if longer < UInt64.size then absorb longer rest else (significand, digit :: rest)

/-- The rounded power of ten, up to the largest within range. -/
def tenTo (power : Nat) : Binary64 :=
  (Binary64.nearest? false (Nat.pow 10 power) 1).getD (.zero false)

/-- Divides so many times by the largest power of ten within range; zero stays zero. -/
def divideTimes : Nat → Binary64 → Option Binary64
  | 0, x => some x
  | times + 1, x => if x.isZero then some x else (x.div? (tenTo 308)).bind (divideTimes times)

/-- Divides by a power of ten, in steps of the largest one within range. -/
def scaleDown (x : Binary64) (power : Nat) : Option Binary64 :=
  (divideTimes (power / 308) x).bind (·.div? (tenTo (power % 308)))

/-- Multiplies by a power of ten, if the result is within range. -/
def scaleUp (x : Binary64) (power : Nat) : Option Binary64 :=
  if power ≤ 308 then x.mul? (tenTo power)
  else if x.isZero then some x
  else none

/-- The binary64 number for a significand and a power of ten. -/
def scaled (negative : Bool) (significand : Nat) (power : Int) : Option Binary64 := do
  let x ← Binary64.nearest? negative significand 1
  if 0 ≤ power then scaleUp x power.toNat else scaleDown x (-power).toNat

def value (numeral : Numeral) : Option Number :=
  let (head, dropped) := absorb 0 numeral.whole
  match numeral.fraction, numeral.power with
  | none, none =>
    if dropped.isEmpty then
      if numeral.negative then
        if head = 0 ∨ -(head : Int) < Int64.minValue.toInt then (scaled true head 0).map .real
        else some (.integer (-head))
      else some (.integer head)
    else (scaled numeral.negative head dropped.length).map .real
  | fraction, power =>
    let digits := fraction.getD []
    let (significand, unused) := absorb head digits
    let places : Int := digits.length - unused.length
    (scaled numeral.negative significand (dropped.length - places + power.getD 0)).map .real

end Numeral

end RestQuery.Json
