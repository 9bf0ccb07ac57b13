import Mathlib.Data.Nat.Digits.Defs
import RestQuery.Filter.Grammar
import RestQuery.Proofs.Json.Lexing
import RestQuery.Proofs.Uuid

/-!
# What a text names

A text is a value for a field of a type by itself: any text for a field that holds texts, digits
with an optional minus for an integer that 64 bits hold, and the written form of a random identifier
in letters of either case.

Main statements: `integer?_eq_some_iff` and `element?_eq_some_iff`.
-/

namespace RestQuery

/-! ## Decimal numbers -/

/-- A text is a decimal number without a sign: one or more digits, of which the first counts
most. -/
structure Text.Denotes (s : String) (n : Nat) : Prop where
  nonempty : s ≠ ""
  digits : ∀ c ∈ s.toList, c.isDigit = true
  value : Nat.ofDigits 10 (s.toList.reverse.map fun c => c.toNat - '0'.toNat) = n

/-- Digits from the first on give the number that they denote from the last on. -/
theorem Text.ofDigits_reverse (cs : List Char) :
    Nat.ofDigits 10 (cs.reverse.map fun c => c.toNat - '0'.toNat) =
      Nat.ofDigitChars 10 cs 0 := by
  rw [Nat.ofDigits_eq_foldr, List.map_reverse, List.foldr_reverse, List.foldl_map,
    Nat.ofDigitChars]
  refine congrFun (congrFun (congrArg _ ?_) _) _
  funext n c
  exact Nat.add_comm _ _

theorem Filter.natural?_eq_some_iff {s : String} {n : Nat} :
    natural? s.toList = some n ↔ Text.Denotes s n := by
  have hnonempty : s.toList.isEmpty = false ↔ s ≠ "" := by
    rw [List.isEmpty_eq_false_iff, ne_eq, String.toList_eq_nil_iff]
  rw [natural?, Option.ite_none_right_eq_some, ← Text.ofDigits_reverse, Bool.and_eq_true_iff,
    Bool.not_eq_true', hnonempty, List.all_eq_true, Option.some.injEq]
  constructor
  · rintro ⟨⟨hsome, hdigits⟩, hvalue⟩
    exact ⟨hsome, hdigits, hvalue⟩
  · rintro ⟨hsome, hdigits, hvalue⟩
    exact ⟨⟨hsome, hdigits⟩, hvalue⟩

/-- A text is a decimal number, perhaps with a minus before it. -/
inductive Text.DenotesInteger : String → Int → Prop
  | natural {s : String} {n : Nat} (hdenotes : Denotes s n) : DenotesInteger s n
  | negative {s : String} {n : Nat} (hdenotes : Denotes s n) : DenotesInteger ("-" ++ s) (-n)

namespace Filter

/-! ## Integers -/

theorem ofInt_eq_some_iff {k : Int} {n : Int64} :
    (if Int64.minValue.toInt ≤ k ∧ k ≤ Int64.maxValue.toInt then some (Int64.ofInt k)
      else none) = some n ↔ k = n.toInt := by
  rw [Option.ite_none_right_eq_some, Option.some_inj]
  constructor
  · rintro ⟨⟨hlow, hhigh⟩, rfl⟩
    exact (Int64.toInt_ofInt_of_le hlow (Int.lt_add_one_of_le hhigh)).symm
  · rintro rfl
    exact ⟨⟨n.minValue_le_toInt, n.toInt_le⟩, Int64.ofInt_toInt n⟩

/-- Behind a minus the digits denote the opposite number, as far as it has 64 bits. -/
theorem integer?_negative {s : String} {n : Int64} :
    integer? ("-" ++ s).toList = some n ↔ ∃ m : Nat, Text.Denotes s m ∧ -(m : Int) = n.toInt := by
  simp [integer?, Option.bind_eq_some_iff, ← ofInt_eq_some_iff, natural?_eq_some_iff]

/-- Without a minus the digits denote the number itself, as far as it has 64 bits. -/
theorem integer?_natural {s : String} {n : Int64} (hsign : ∀ rest, s ≠ "-" ++ rest) :
    integer? s.toList = some n ↔ ∃ m : Nat, Text.Denotes s m ∧ (m : Int) = n.toInt := by
  unfold integer?
  split
  next digits hdigits =>
    refine absurd ?_ (hsign (String.ofList digits))
    simp [← String.toList_inj, hdigits]
  next => simp [Option.bind_eq_some_iff, ← ofInt_eq_some_iff, natural?_eq_some_iff]

/-- An integer of 64 bits is read from what denotes it, and from nothing else. -/
theorem integer?_eq_some_iff {s : String} {n : Int64} :
    integer? s.toList = some n ↔ Text.DenotesInteger s n.toInt := by
  constructor
  · intro hread
    by_cases hsign : ∃ rest, s = "-" ++ rest
    · obtain ⟨rest, rfl⟩ := hsign
      obtain ⟨m, hdenotes, hn⟩ := integer?_negative.1 hread
      exact hn ▸ .negative hdenotes
    · obtain ⟨m, hdenotes, hn⟩ := (integer?_natural (not_exists.1 hsign)).1 hread
      exact hn ▸ .natural hdenotes
  · intro hdenotes
    generalize hk : n.toInt = k at hdenotes
    cases hdenotes with
    | negative hdenotes => exact integer?_negative.2 ⟨_, hdenotes, hk.symm⟩
    | natural hdenotes =>
        have hsign : ∀ rest, s ≠ "-" ++ rest := by
          rintro rest rfl
          exact absurd (hdenotes.digits '-' (by simp)) (by decide)
        exact (integer?_natural hsign).2 ⟨_, hdenotes, hk.symm⟩

/-- The digits of a number denote it. -/
theorem denotes_toDigits (n : Nat) : Text.Denotes (String.ofList (Nat.toDigits 10 n)) n := by
  rw [← natural?_eq_some_iff, String.toList_ofList, natural?, Nat.ofDigitChars_ten_toDigits]
  simpa using Json.Numeral.all_isDigit_toDigits n

/-- The text of an integer as a number denotes it. -/
theorem denotesInteger_text (k : Int) :
    Text.DenotesInteger (String.ofList (Json.Number.integer k).text) k := by
  have hdenotes := denotes_toDigits k.natAbs
  rw [Json.Number.text]
  split
  next hnegative =>
    have htext := Text.DenotesInteger.negative hdenotes
    have hminus : "-" ++ String.ofList (Nat.toDigits 10 k.natAbs) =
        String.ofList ('-' :: Nat.toDigits 10 k.natAbs) := by simp
    rwa [Int.ofNat_natAbs_of_nonpos (Int.le_of_lt hnegative), Int.neg_neg, hminus] at htext
  next hnatural =>
    have htext := Text.DenotesInteger.natural hdenotes
    rwa [Int.natAbs_of_nonneg (Int.not_lt.1 hnatural)] at htext

theorem not_blank_of_denotes {s : String} {n : Nat} (hdenotes : Text.Denotes s n) :
    ∀ c ∈ s.toList, Text.isBlank c = false :=
  fun c hmem => Text.isBlank_of_isDigit (hdenotes.digits c hmem)

/-- A text that denotes an integer is not empty and has no blanks. -/
theorem not_blank_of_denotesInteger {s : String} {k : Int} (hdenotes : Text.DenotesInteger s k) :
    s ≠ "" ∧ ∀ c ∈ s.toList, Text.isBlank c = false := by
  cases hdenotes with
  | natural hdenotes => exact ⟨hdenotes.nonempty, not_blank_of_denotes hdenotes⟩
  | negative hdenotes =>
      refine ⟨by simp, ?_⟩
      rw [String.toList_append]
      exact List.forall_mem_cons.2 ⟨by decide, not_blank_of_denotes hdenotes⟩

/-! ## All types -/

/-- What a text names as a value of a type. -/
inductive Names : FieldType → String → Operand → Prop
  | text (s : String) : Names .string s (.text s)
  | integer {s : String} {n : Int64} (hdenotes : Text.DenotesInteger s n.toInt) :
      Names .number s (.integer n)
  | uuid {s : String} {id : Uuid} (hform : s.toList.map Char.toLower = id.text.toList)
      (hrandom : id.isRandom = true) : Names .uuid s (.uuid id)

/-- The operand for a member of a set of values of a type. -/
def element? : FieldType → String → Option Operand
  | .string, s => some (.text s)
  | .number, s => (integer? s.toList).map .integer
  | .uuid, s => (Uuid.readRandom? s).map .uuid
  | _, _ => none

/-- A text is an element of a set exactly if it names a value of the field's type. -/
theorem element?_eq_some_iff {type : FieldType} {s : String} {operand : Operand} :
    element? type s = some operand ↔ Names type s operand := by
  constructor
  · intro helement
    cases type with
    | string =>
        obtain rfl := Option.some.inj helement
        exact .text s
    | number =>
        obtain ⟨n, hn, rfl⟩ := Option.map_eq_some_iff.1 helement
        exact .integer (integer?_eq_some_iff.1 hn)
    | uuid =>
        obtain ⟨id, hid, rfl⟩ := Option.map_eq_some_iff.1 helement
        obtain ⟨hform, hrandom⟩ := Uuid.readRandom?_eq_some_iff.1 hid
        exact .uuid hform hrandom
    | _ => cases helement
  · rintro (_ | hdenotes | ⟨hform, hrandom⟩)
    · rfl
    · exact Option.map_eq_some_iff.2 ⟨_, integer?_eq_some_iff.2 hdenotes, rfl⟩
    · exact Option.map_eq_some_iff.2 ⟨_, Uuid.readRandom?_eq_some_iff.2 ⟨hform, hrandom⟩, rfl⟩

end Filter

end RestQuery
