/-!
# Finite binary64 numbers

A finite number is a sign and a magnitude.  Magnitudes are counted in increasing order: zero
is number 0, the smallest positive one is number 1, and the count of a magnitude is its
pattern of exponent and fraction bits.  All arithmetic is on natural numbers and rounds to the
nearest number, a half to the even one; a result beyond the largest number is `none`.
-/

namespace RestQuery

/-- The number of magnitudes between one power of two and the next: two to the power of 52. -/
abbrev binadeSize : Nat := 4503599627370496

/-- A finite binary64 number. -/
structure Binary64 where
  negative : Bool
  /-- The place of the magnitude among all magnitudes. -/
  bits : Nat
  finite : bits < 2047 * binadeSize

namespace Binary64

instance : DecidableEq Binary64 := fun left right =>
  decidable_of_iff (left.negative = right.negative ∧ left.bits = right.bits)
    ⟨fun h => by cases left; cases right; simp_all, fun h => h ▸ ⟨rfl, rfl⟩⟩

def zero (negative : Bool) : Binary64 := ⟨negative, 0, by decide⟩

def isZero (x : Binary64) : Bool := x.bits == 0

def significand (x : Binary64) : Nat :=
  if x.bits < binadeSize then x.bits else binadeSize + x.bits % binadeSize

/-- How many times the smallest spacing `2 ^ -1074` has doubled at the magnitude. -/
def binade (x : Binary64) : Nat := x.bits / binadeSize - 1

/-- The magnitude as a fraction of natural numbers. -/
def ratio (x : Binary64) : Nat × Nat := (x.significand <<< x.binade, 1 <<< 1074)

/-- The nearest integer to a quotient, the even one of two. -/
def roundQuotient (num den : Nat) : Nat :=
  let quotient := num / den
  let rest := num % den
  if den < 2 * rest ∨ (2 * rest = den ∧ quotient % 2 = 1) then quotient + 1 else quotient

/-- The binade in which a quotient has 53 bits, or the lowest one if it has fewer there. -/
def binadeOf (num den : Nat) : Nat :=
  let low := num.log2 + 1074 - (den.log2 + 53)
  if (num <<< 1074) / (den <<< low) < 2 * binadeSize then low else low + 1

/-- The number nearest to a quotient, if it is within range. -/
def nearest? (negative : Bool) (num den : Nat) : Option Binary64 :=
  if num = 0 then some (zero negative)
  else
    let binade := binadeOf num den
    let bits := binade * binadeSize + roundQuotient (num <<< 1074) (den <<< binade)
    if finite : bits < 2047 * binadeSize then some ⟨negative, bits, finite⟩ else none

def mul? (x y : Binary64) : Option Binary64 :=
  nearest? (x.negative != y.negative) (x.ratio.1 * y.ratio.1) (x.ratio.2 * y.ratio.2)

def div? (x y : Binary64) : Option Binary64 :=
  nearest? (x.negative != y.negative) (x.ratio.1 * y.ratio.2) (x.ratio.2 * y.ratio.1)

end Binary64

end RestQuery
