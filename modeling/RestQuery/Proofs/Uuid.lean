import Mathlib.Algebra.GroupWithZero.Nat
import RestQuery.Proofs.Outcome
import RestQuery.Text.Blank
import RestQuery.Uuid

/-!
# Identifiers and their written form

A text in the written form names the identifier of which it is the written form, but for the case
of letters; and no other text names any.

Main statements: `Uuid.readGroups?_eq_some_iff` and `Uuid.readRandom?_eq_some_iff`.
-/

namespace RestQuery

/-! ## Digits -/

namespace Text

theorem toLower_cases (c : Char) :
    (65 ≤ c.toNat ∧ c.toNat ≤ 90 ∧ c.toLower.toNat = c.toNat + 32) ∨
      (¬(65 ≤ c.toNat ∧ c.toNat ≤ 90) ∧ c.toLower = c) := by
  unfold Char.toLower
  split
  next hupper =>
    have hlow : 65 ≤ c.toNat := hupper.1
    have hhigh : c.toNat ≤ 90 := hupper.2
    have hsum : (c.val + 32).toNat = (c.toNat + 32) % 4294967296 := UInt32.toNat_add c.val 32
    exact .inl ⟨hlow, hhigh, hsum.trans (Nat.mod_eq_of_lt (by omega))⟩
  next hother => exact .inr ⟨hother, rfl⟩

theorem toNat_hexDigit (digit : Fin 16) :
    (digit.val < 10 ∧ (hexDigit digit).toNat = digit.val + 48) ∨
      (10 ≤ digit.val ∧ (hexDigit digit).toNat = digit.val + 87) := by
  revert digit
  decide

theorem hexValue?_eq (c : Char) :
    hexValue? c =
      if 48 ≤ c.toNat ∧ c.toNat ≤ 57 then some (lastHex (c.toNat - 48))
      else if 97 ≤ c.toNat ∧ c.toNat ≤ 102 then some (lastHex (c.toNat - 97 + 10))
      else if 65 ≤ c.toNat ∧ c.toNat ≤ 70 then some (lastHex (c.toNat - 65 + 10))
      else none := rfl

theorem val_of_hexValue? {c : Char} {digit : Fin 16} (hvalue : hexValue? c = some digit) :
    (48 ≤ c.toNat ∧ c.toNat ≤ 57 ∧ digit.val = c.toNat - 48) ∨
      (97 ≤ c.toNat ∧ c.toNat ≤ 102 ∧ digit.val = c.toNat - 87) ∨
      (65 ≤ c.toNat ∧ c.toNat ≤ 70 ∧ digit.val = c.toNat - 55) := by
  rw [hexValue?_eq] at hvalue
  split at hvalue
  · obtain rfl := Option.some.inj hvalue
    simp only [lastHex]
    omega
  split at hvalue
  · obtain rfl := Option.some.inj hvalue
    simp only [lastHex]
    omega
  split at hvalue
  · obtain rfl := Option.some.inj hvalue
    simp only [lastHex]
    omega
  · cases hvalue

/-- A character is a digit exactly if it is one in lower case, and then of the same value. -/
theorem hexValue?_eq_some_iff {c : Char} {digit : Fin 16} :
    hexValue? c = some digit ↔ c.toLower = hexDigit digit := by
  have hwritten := toNat_hexDigit digit
  have hlower := toLower_cases c
  constructor
  · intro hvalue
    have hval := val_of_hexValue? hvalue
    apply Char.toNat_inj.1
    rcases hlower with ⟨_, _, hlower⟩ | ⟨_, hlower⟩
    · omega
    · rw [hlower]
      omega
  · intro heq
    rcases hlower with ⟨_, _, hlower⟩ | ⟨_, hlower⟩
    · rw [heq] at hlower
      have hvalue : lastHex (c.toNat - 65 + 10) = digit := by
        apply Fin.ext
        simp only [lastHex]
        omega
      rw [hexValue?_eq, if_neg (by omega), if_neg (by omega), if_pos (by omega), hvalue]
    · rw [← hlower, heq, hexValue?_hexDigit]

theorem isBlank_of_hexValue? {c : Char} {digit : Fin 16} (hvalue : hexValue? c = some digit) :
    isBlank c = false := by
  have hval := val_of_hexValue? hvalue
  simp [isBlank, blankSpans, Span.contains]
  omega

/-- Characters are digits exactly if they write them, in letters of either case. -/
theorem mapM_hexValue?_eq_some_iff {cs : List Char} {digits : List (Fin 16)} :
    cs.mapM hexValue? = some digits ↔ cs.map Char.toLower = digits.map hexDigit := by
  rw [mapM_eq_some_iff, ← List.forall₂_eq_eq_eq, List.forall₂_map_left_iff,
    List.forall₂_map_right_iff]
  simp only [hexValue?_eq_some_iff]

theorem toLower_eq_hyphen_iff {c : Char} : c.toLower = '-' ↔ c = '-' := by
  rw [← Char.toNat_inj, ← Char.toNat_inj]
  have hhyphen : '-'.toNat = 45 := rfl
  rcases toLower_cases c with ⟨_, _, hlower⟩ | ⟨_, hlower⟩
  · omega
  · rw [hlower]

theorem hexDigit_ne_hyphen (digit : Fin 16) : hexDigit digit ≠ '-' := by
  revert digit
  decide

end Text

/-! ## Groups -/

namespace Uuid

theorem splitOn_map_toLower (cs : List Char) :
    (cs.map Char.toLower).splitOn '-' = (cs.splitOn '-').map (List.map Char.toLower) := by
  induction cs with
  | nil => rfl
  | cons c rest ih =>
      rw [List.map_cons, List.splitOn_cons_eq_if_modifyHead, List.splitOn_cons_eq_if_modifyHead, ih]
      simp only [beq_iff_eq, Text.toLower_eq_hyphen_iff]
      split
      · rfl
      · cases rest.splitOn '-' <;> rfl

theorem map_length_grouped {digits : List Char} {lengths : List Nat}
    (hlength : digits.length = lengths.sum) :
    (grouped digits lengths).map List.length = lengths := by
  induction lengths generalizing digits with
  | nil => rfl
  | cons length rest ih =>
      rw [List.sum_cons] at hlength
      rw [grouped, List.map_cons, List.length_take, ih (by rw [List.length_drop]; omega),
        Nat.min_eq_left (by omega)]

theorem flatten_grouped {digits : List Char} {lengths : List Nat}
    (hlength : digits.length = lengths.sum) : (grouped digits lengths).flatten = digits := by
  induction lengths generalizing digits with
  | nil => exact (List.eq_nil_of_length_eq_zero hlength).symm
  | cons length rest ih =>
      rw [List.sum_cons] at hlength
      rw [grouped, List.flatten_cons, ih (by rw [List.length_drop]; omega), List.take_append_drop]

/-- Groups are those of digits if they hold these digits and have the lengths of the groups. -/
theorem eq_grouped_iff {groups : List (List Char)} {digits : List Char} {lengths : List Nat}
    (hlength : digits.length = lengths.sum) :
    groups = grouped digits lengths ↔
      groups.map List.length = lengths ∧ groups.flatten = digits := by
  constructor
  · rintro rfl
    exact ⟨map_length_grouped hlength, flatten_grouped hlength⟩
  · rintro ⟨rfl, rfl⟩
    clear hlength
    induction groups with
    | nil => rfl
    | cons group rest ih =>
        rw [List.flatten_cons, List.map_cons, grouped, List.take_left, List.drop_left, ← ih]

/-! ## Written forms -/

theorem length_hexDigits (id : Uuid) :
    (id.digits.toList.map Text.hexDigit).length = groupLengths.sum := by
  rw [List.length_map, Vector.length_toList]
  rfl

/-- Digits are those of the identifier that they give. -/
theorem ofDigits?_eq_some_iff {digits : List (Fin 16)} {id : Uuid} :
    ofDigits? digits = some id ↔ digits = id.digits.toList := by
  unfold ofDigits?
  constructor
  · intro hread
    split at hread
    next => rw [← Option.some.inj hread, Vector.toList_mk]
    next => cases hread
  · rintro rfl
    rw [dif_pos id.digits.length_toList]
    rfl

theorem ofChars?_eq_some_iff {cs : List Char} {id : Uuid} :
    ofChars? cs = some id ↔
      cs.map Char.toLower = id.digits.toList.map Text.hexDigit := by
  rw [ofChars?, Option.bind_eq_some_iff]
  constructor
  · rintro ⟨digits, hdigits, hid⟩
    rw [← ofDigits?_eq_some_iff.1 hid]
    exact Text.mapM_hexValue?_eq_some_iff.1 hdigits
  · intro hlower
    exact ⟨_, Text.mapM_hexValue?_eq_some_iff.2 hlower, ofDigits?_eq_some_iff.2 rfl⟩

theorem eq_hexDigit_of_mem {id : Uuid} {group : List Char} {c : Char}
    (hgroup : group ∈ grouped (id.digits.toList.map Text.hexDigit) groupLengths)
    (hc : c ∈ group) : ∃ digit, c = Text.hexDigit digit := by
  have hmem := List.mem_flatten.2 ⟨group, hgroup, hc⟩
  rw [flatten_grouped (length_hexDigits id)] at hmem
  obtain ⟨digit, -, rfl⟩ := List.mem_map.1 hmem
  exact ⟨digit, rfl⟩

/-- The written form has digits and hyphens only. -/
theorem mem_text {id : Uuid} {c : Char} (hmem : c ∈ id.text.toList) :
    c = '-' ∨ ∃ digit, c = Text.hexDigit digit := by
  rw [text, String.toList_ofList] at hmem
  exact (mem_of_mem_intercalate hmem).imp_right fun ⟨_, hgroup, hc⟩ => eq_hexDigit_of_mem hgroup hc

/-- The hyphens of the written form separate the groups. -/
theorem splitOn_text (id : Uuid) :
    id.text.toList.splitOn '-' = grouped (id.digits.toList.map Text.hexDigit) groupLengths := by
  rw [text, String.toList_ofList]
  apply List.splitOn_intercalate
  · intro group hgroup hhyphen
    obtain ⟨digit, hdigit⟩ := eq_hexDigit_of_mem hgroup hhyphen
    exact Text.hexDigit_ne_hyphen digit hdigit.symm
  · exact List.cons_ne_nil _ _

/-- Characters name an identifier if they are its written form but for the case of letters. -/
theorem readGroups?_eq_some_iff {cs : List Char} {id : Uuid} :
    readGroups? cs = some id ↔ cs.map Char.toLower = id.text.toList := by
  calc readGroups? cs = some id
      ↔ (cs.splitOn '-').map List.length = groupLengths ∧
          (cs.splitOn '-').flatten.map Char.toLower = id.digits.toList.map Text.hexDigit := by
        rw [← ofChars?_eq_some_iff]
        exact Option.ite_none_right_eq_some
    _ ↔ (cs.splitOn '-').map (List.map Char.toLower) =
          grouped (id.digits.toList.map Text.hexDigit) groupLengths := by
        simp [eq_grouped_iff (length_hexDigits id), List.map_flatten, Function.comp_def]
    _ ↔ (cs.map Char.toLower).splitOn '-' = id.text.toList.splitOn '-' := by
        rw [splitOn_map_toLower, splitOn_text]
    _ ↔ cs.map Char.toLower = id.text.toList := by
        refine ⟨fun hsplit => ?_, congrArg _⟩
        have hjoined := congrArg (['-'].intercalate ·) hsplit
        simpa only [List.intercalate_splitOn] using hjoined

/-- A text that names an identifier is not empty and has no blanks. -/
theorem not_blank_of_form {s : String} {id : Uuid}
    (hform : s.toList.map Char.toLower = id.text.toList) :
    s ≠ "" ∧ ∀ c ∈ s.toList, Text.isBlank c = false := by
  constructor
  · rintro rfl
    have hread : readGroups? [] = some id := readGroups?_eq_some_iff.2 hform
    cases hread
  · intro c hmem
    have hlower : c.toLower ∈ id.text.toList := hform ▸ List.mem_map_of_mem hmem
    rcases mem_text hlower with hhyphen | ⟨digit, hdigit⟩
    · rw [Text.toLower_eq_hyphen_iff.1 hhyphen]
      decide
    · exact Text.isBlank_of_hexValue? (Text.hexValue?_eq_some_iff.2 hdigit)

/-- A text names a random identifier if it is its written form but for the case of letters. -/
theorem readRandom?_eq_some_iff {s : String} {id : Uuid} :
    readRandom? s = some id ↔ s.toList.map Char.toLower = id.text.toList ∧ id.isRandom = true := by
  rw [readRandom?, Option.filter_eq_some_iff, readGroups?_eq_some_iff]

end Uuid

end RestQuery
