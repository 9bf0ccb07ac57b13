/-!
# Hexadecimal digits

Digits are written in lower case and read in either case.

Main statement: `hexValue?_hexDigit` says that a written digit is read back.
-/

namespace RestQuery.Text

def hexDigit (n : Fin 16) : Char := Nat.digitChar n

/-- What a number leaves when divided by sixteen: the value of its last digit. -/
def lastHex (n : Nat) : Fin 16 := ⟨n % 16, Nat.mod_lt n (by decide)⟩

def hexValue? (c : Char) : Option (Fin 16) :=
  if '0' ≤ c ∧ c ≤ '9' then some (lastHex (c.toNat - '0'.toNat))
  else if 'a' ≤ c ∧ c ≤ 'f' then some (lastHex (c.toNat - 'a'.toNat + 10))
  else if 'A' ≤ c ∧ c ≤ 'F' then some (lastHex (c.toNat - 'A'.toNat + 10))
  else none

/-- Each digit is read back. -/
@[simp]
theorem hexValue?_hexDigit (n : Fin 16) : hexValue? (hexDigit n) = some n := by
  revert n
  decide

end RestQuery.Text
