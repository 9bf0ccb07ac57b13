import RestQuery.Proofs.Request.Keys

/-!
# Letters and their lower-case forms

The tables of letters fit together: no character is both upper and lower case, no letter is a blank,
and a lower-case form that is not the character itself has a lower-case letter and no capital.  The
tables are compared span by span, since there are too many characters to look at each.

Main statements: `isUpper_of_isLower` and `lowerChar_cases`.
-/

namespace RestQuery.Text

/-! ## Spans -/

namespace Span

variable {inner outer left right : Span} {code : Nat}

theorem contains_iff : inner.contains code = true ↔
    inner.first ≤ code ∧ code ≤ inner.last ∧ (code - inner.first) % inner.step = 0 := by
  simp [contains, and_assoc]

/-- Whether two spans have no code point in common: one ends before the other starts, they have
every second code point each, or one is a single code point off the other. -/
def isApart (left right : Span) : Bool :=
  Nat.blt left.last right.first || (Nat.blt right.last left.first ||
    ((left.step == 2 && right.step == 2 && (left.first + right.first) % 2 == 1) ||
      ((left.first == left.last && !right.contains left.first) ||
        (right.first == right.last && !left.contains right.first))))

/-- Spans that are found to be apart have no code point in common. -/
theorem contains_of_isApart (hapart : left.isApart right = true)
    (hleft : left.contains code = true) : right.contains code = false := by
  rw [← Bool.not_eq_true]
  intro hright
  simp only [isApart, Bool.or_eq_true, Bool.and_eq_true, Nat.blt_eq, beq_iff_eq,
    Bool.not_eq_true'] at hapart
  have hl := contains_iff.1 hleft
  have hr := contains_iff.1 hright
  rcases hapart with hapart | hapart | ⟨⟨hstep, hstep'⟩, hapart⟩ | ⟨hsingle, hoff⟩ |
    ⟨hsingle, hoff⟩
  · omega
  · omega
  · rw [hstep] at hl
    rw [hstep'] at hr
    omega
  · rw [show left.first = code by omega, hright] at hoff
    cases hoff
  · rw [show right.first = code by omega, hleft] at hoff
    cases hoff

def isWithin (inner outer : Span) : Bool :=
  Nat.ble outer.first inner.first && Nat.ble inner.last outer.last
    && (inner.first - outer.first) % outer.step == 0
    && (inner.first == inner.last || inner.step % outer.step == 0)

/-- A span that is found to lie on another one has all of its code points there. -/
theorem contains_of_isWithin (hwithin : inner.isWithin outer = true)
    (hinner : inner.contains code = true) : outer.contains code = true := by
  simp only [isWithin, Bool.and_eq_true, Bool.or_eq_true, Nat.ble_eq, beq_iff_eq] at hwithin
  obtain ⟨⟨⟨hfirst, hlast⟩, hoffset⟩, hstep⟩ := hwithin
  obtain ⟨hlow, hhigh, hplace⟩ := contains_iff.1 hinner
  refine contains_iff.2 ⟨by omega, by omega, ?_⟩
  rcases hstep with hsingle | hstep
  · rw [show code = inner.first by omega, hoffset]
  · have hsum : code - outer.first = (code - inner.first) + (inner.first - outer.first) := by omega
    rw [hsum]
    exact Nat.mod_eq_zero_of_dvd (Nat.dvd_add
      (Nat.dvd_trans (Nat.dvd_of_mod_eq_zero hstep) (Nat.dvd_of_mod_eq_zero hplace))
      (Nat.dvd_of_mod_eq_zero hoffset))

end Span

variable {c : Char}

theorem covered_iff {spans : List Span} :
    covered spans c = true ↔ ∃ span ∈ spans, span.contains c.toNat = true :=
  List.any_eq_true

theorem covered_of_isApart {lefts rights : List Span}
    (hapart : lefts.all (fun left => rights.all left.isApart) = true)
    (hleft : covered lefts c = true) : covered rights c = false := by
  obtain ⟨left, hmem, hcontains⟩ := covered_iff.1 hleft
  refine List.any_eq_false.2 fun right hright => ?_
  rw [Bool.not_eq_true]
  exact Span.contains_of_isApart
    (List.all_eq_true.1 (List.all_eq_true.1 hapart left hmem) right hright) hcontains

/-! ## Classes of letters -/

/-- No lower-case letter is a capital. -/
theorem isUpper_of_isLower (hlower : isLower c = true) : isUpper c = false :=
  covered_of_isApart (by decide +kernel) hlower

theorem isBlank_of_isLower (hlower : isLower c = true) : isBlank c = false :=
  covered_of_isApart (by decide +kernel) hlower

theorem isBlank_of_isUpper (hupper : isUpper c = true) : isBlank c = false :=
  covered_of_isApart (by decide +kernel) hupper

/-- What lower-case forms consist of: characters that no pass over a text changes or sets apart. -/
structure IsSettled (c : Char) : Prop where
  isUpper : Text.isUpper c = false
  isBlank : Text.isBlank c = false
  joint : c ≠ '_'

theorem isSettled_of_isLower (hlower : isLower c = true) : IsSettled c where
  isUpper := isUpper_of_isLower hlower
  isBlank := isBlank_of_isLower hlower
  joint := by
    rintro rfl
    revert hlower
    decide +kernel

/-! ## Lower-case forms -/

def Shift.image (shift : Shift) : Span :=
  ⟨(shift.span.first + shift.distance).toNat, (shift.span.last + shift.distance).toNat,
    shift.span.step⟩

theorem Shift.contains_image {shift : Shift} {code : Nat}
    (hpos : 0 ≤ shift.span.first + shift.distance) (hcode : shift.span.contains code = true) :
    shift.image.contains (code + shift.distance).toNat = true := by
  obtain ⟨hlow, hhigh, hplace⟩ := Span.contains_iff.1 hcode
  refine Span.contains_iff.2 ⟨?_, ?_, ?_⟩
  · simp only [image]
    omega
  · simp only [image]
    omega
  · have hsame : (code + shift.distance).toNat - (shift.span.first + shift.distance).toNat =
        code - shift.span.first := by omega
    rw [image, hsame, hplace]

/-- Every shift ends at small letters. -/
theorem lowerShifts_land : ∀ shift ∈ lowerShifts,
    lowerSpans.any (fun span => shift.image.isWithin span) = true := by
  decide +kernel

/-- Every code point of a lower-case letter is one of a character. -/
theorem lowerSpans_valid : ∀ span ∈ lowerSpans,
    span.last < 0xD800 ∨ 0xDFFF < span.first ∧ span.last < 0x110000 := by
  decide +kernel

theorem isLower_ofNat {span : Span} {code : Nat} (hspan : span ∈ lowerSpans)
    (hcode : span.contains code = true) : isLower (Char.ofNat code) = true := by
  have hvalid : code.isValidChar := by
    obtain ⟨hlow, hhigh, -⟩ := Span.contains_iff.1 hcode
    rcases lowerSpans_valid span hspan with hlast | ⟨hfirst, hlast⟩
    · exact .inl (by omega)
    · exact .inr ⟨by omega, by omega⟩
  have hsame : (Char.ofNat code).toNat = code := by
    rw [Char.ofNat, dif_pos hvalid]
    rfl
  exact covered_iff.2 ⟨span, hspan, hsame.symm ▸ hcode⟩

/-- A character is its own lower-case form, or the form has a lower-case letter and is settled. -/
theorem lowerChar_cases (c : Char) :
    lowerChar c = [c] ∨
      (∀ d ∈ lowerChar c, IsSettled d) ∧ ∃ d ∈ lowerChar c, isLower d = true := by
  unfold lowerChar
  split
  · refine .inr ⟨?_, 'i', List.mem_cons_self, by decide +kernel⟩
    rw [List.forall_mem_cons, List.forall_mem_singleton]
    exact ⟨isSettled_of_isLower (by decide +kernel),
      ⟨by decide +kernel, by decide +kernel, by decide⟩⟩
  · split
    next shift hfind =>
      have hshift := List.mem_of_find?_eq_some hfind
      obtain ⟨span, hspan, hwithin⟩ := List.any_eq_true.1 (lowerShifts_land shift hshift)
      have habove := lowerShifts_above shift hshift
      have hcode := List.find?_some hfind
      have himage := Shift.contains_image (by omega) hcode
      have hlower := isLower_ofNat hspan (Span.contains_of_isWithin hwithin himage)
      refine .inr ⟨?_, _, List.mem_singleton_self _, hlower⟩
      rw [List.forall_mem_singleton]
      exact isSettled_of_isLower hlower
    next => exact .inl rfl

/-! ## Letters of ASCII -/

/-- What holds of all codes of ASCII holds of its characters. -/
theorem of_ascii {p : Char → Prop} (hcodes : ∀ code : Fin 128, p (Char.ofNat code))
    (hc : c.toNat < 128) : p c := by
  have hcode := hcodes ⟨c.toNat, hc⟩
  rwa [Char.ofNat_toNat] at hcode

theorem covered_ascii {first : Span} {rest : List Span}
    (hrest : ∀ span ∈ rest, 128 ≤ span.first) (hc : c.toNat < 128) :
    covered (first :: rest) c = first.contains c.toNat := by
  have hnone : covered rest c = false := by
    refine List.any_eq_false.2 fun span hspan hcontains => ?_
    have hlow := (Span.contains_iff.1 hcontains).1
    have hhigh := hrest span hspan
    omega
  rw [covered_cons, hnone, Bool.or_false]

theorem isUpper_ascii (hc : c.toNat < 128) : isUpper c = c.isUpper := by
  rw [isUpper, upperSpans, covered_ascii (by decide +kernel) hc]
  exact of_ascii (p := fun c => Span.contains ⟨0x41, 0x5A, 1⟩ c.toNat = c.isUpper) (by decide) hc

theorem isLower_ascii (hc : c.toNat < 128) : isLower c = c.isLower := by
  rw [isLower, lowerSpans, covered_ascii (by decide +kernel) hc]
  exact of_ascii (p := fun c => Span.contains ⟨0x61, 0x7A, 1⟩ c.toNat = c.isLower) (by decide) hc

theorem find?_lowerShifts_ascii (hc : c.toNat < 128) :
    lowerShifts.find? (·.span.contains c.toNat) =
      if Span.contains ⟨0x41, 0x5A, 1⟩ c.toNat then some ⟨⟨0x41, 0x5A, 1⟩, 32⟩ else none := by
  have hfirst : ∀ shift ∈ lowerShifts.tail, 128 ≤ shift.span.first := by decide +kernel
  have hnone : lowerShifts.tail.find? (·.span.contains c.toNat) = none := by
    refine List.find?_eq_none.2 fun shift hshift hcontains => ?_
    have hlow := (Span.contains_iff.1 hcontains).1
    have hhigh := hfirst shift hshift
    omega
  rw [lowerShifts, List.tail_cons] at hnone
  rw [lowerShifts, List.find?_cons, hnone]
  cases Span.contains ⟨0x41, 0x5A, 1⟩ c.toNat <;> rfl

/-- Within ASCII, the lower-case form of a character is the usual one. -/
theorem lowerChar_ascii (hc : c.toNat < 128) : lowerChar c = [c.toLower] := by
  have hdotted : c ≠ 'İ' := by
    rintro rfl
    revert hc
    decide
  have hform := of_ascii (p := fun c => c.toLower =
    if Span.contains ⟨0x41, 0x5A, 1⟩ c.toNat then Char.ofNat (c.toNat + 32) else c) (by decide) hc
  rw [lowerChar, if_neg hdotted, find?_lowerShifts_ascii hc, hform]
  by_cases hcapital : Span.contains ⟨0x41, 0x5A, 1⟩ c.toNat = true
  · rw [if_pos hcapital, if_pos hcapital]
    rfl
  · rw [if_neg hcapital, if_neg hcapital]

end RestQuery.Text
