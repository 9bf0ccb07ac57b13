import RestQuery.Binary64.Basic

/-!
# Shortest decimals

The text of a number is the shortest decimal that reads back as it, and of those the nearest
to it.  The numbers that read back form an interval around the number; the fewest digits
belong to the coarsest grid `10 ^ g` with a point inside.
-/

namespace RestQuery

namespace Binary64

structure Decimal where
  digits : Nat
  scale : Int

/-- The magnitude and the ends of the interval that rounds to it, in quarters of the spacing
at the magnitude.  The lower end is nearer at the bottom of a binade. -/
def interval (x : Binary64) : Nat × Nat × Nat :=
  let middle := 4 * x.significand
  let below := if x.significand = binadeSize ∧ 0 < x.binade then 1 else 2
  (middle - below, middle, middle + 2)

/-- The point of the grid `10 ^ scale` that lies in the interval of a number, the nearer of two
and the even one of two equally near. -/
def gridPoint? (x : Binary64) (scale : Int) : Option Nat :=
  let (low, middle, high) := x.interval
  let point := Nat.pow 10 scale.toNat <<< 1076
  let unit := Nat.pow 10 (-scale).toNat <<< x.binade
  let inside (n : Nat) : Bool :=
    if x.significand % 2 = 0 then low * unit ≤ n * point ∧ n * point ≤ high * unit
    else low * unit < n * point ∧ n * point < high * unit
  let left := middle * unit / point
  let right := left + 1
  match inside left, inside right with
  | true, false => some left
  | false, true => some right
  | false, false => none
  | true, true =>
    let toLeft := middle * unit - left * point
    let toRight := right * point - middle * unit
    if toLeft < toRight ∨ (toLeft = toRight ∧ left % 2 = 0) then some left else some right

/-- The first of so many ever finer grids with a point in the interval. -/
def coarsest (x : Binary64) (scale : Int) : Nat → Option Decimal
  | 0 => none
  | grids + 1 =>
    match x.gridPoint? scale with
    | some digits => some ⟨digits, scale⟩
    | none => x.coarsest (scale - 1) grids

/-- A power of ten above the magnitude, by at most two places. -/
def scaleAbove (x : Binary64) : Int :=
  (((x.significand.log2 + x.binade : Nat) : Int) - 1074) * 30103 / 100000 + 1

/-- The shortest decimal of a number; twenty grids from above its magnitude always hold one,
since seventeen digits tell any two numbers apart. -/
def shortest (x : Binary64) : Decimal := (x.coarsest x.scaleAbove 20).getD ⟨0, 0⟩

/-- A power of ten with its sign. -/
def signedPower (power : Int) : List Char :=
  (if power < 0 then '-' else '+') :: Nat.toDigits 10 power.natAbs

/-- A magnitude in decimal notation: positional while the first digit stands between the
fifth place behind the point and the sixteenth before it, else with a power of ten. -/
def Decimal.text (d : Decimal) : List Char :=
  let digits := Nat.toDigits 10 d.digits
  let power := d.scale + digits.length - 1
  if -6 < power ∧ power < 16 then
    let places := power + 1
    if places ≤ 0 then
      ['0', '.'] ++ List.replicate (-places).toNat '0' ++ digits
    else if (digits.length : Int) ≤ places then
      digits ++ List.replicate (places - digits.length).toNat '0' ++ ['.', '0']
    else digits.take places.toNat ++ ['.'] ++ digits.drop places.toNat
  else
    let tail := digits.drop 1
    digits.take 1 ++ (if tail.isEmpty then [] else '.' :: tail) ++ ['e'] ++ signedPower power

def text (x : Binary64) : List Char :=
  (if x.negative then ['-'] else []) ++
    if x.isZero then ['0', '.', '0'] else x.shortest.text

end Binary64

end RestQuery
