import RestQuery.Request.Key

/-!
# Paths in normal form

Neither snake case nor lower case puts a point, a comma or a space where none was.  So the normal
form of a key has the segments of the key in their normal form, and a part of the path of a key
can be brought into normal form on its own.

Main statements: `Key.mem_of_mem_normalSegment`, `Key.segments_normal` and
`Key.normalSegments_tail`.
-/

namespace RestQuery

namespace Text

variable {separator : Char} {part s : String}

theorem not_mem_of_mem_splitOn {cs word : List Char} (hmem : word ∈ cs.splitOn separator) :
    separator ∉ word := by
  induction cs generalizing word with
  | nil => simp_all
  | cons c rest ih =>
      rw [List.splitOn_cons_eq_if_modifyHead] at hmem
      split at hmem
      next =>
        rcases List.mem_cons.1 hmem with rfl | hmem
        · exact List.not_mem_nil
        · exact ih hmem
      next hother =>
        cases hsplit : rest.splitOn separator with
        | nil => simp at hsplit
        | cons first others =>
            rw [hsplit] at hmem ih
            rcases List.mem_cons.1 hmem with rfl | hmem
            · have hc : separator ≠ c := fun heq => hother (by simp [heq])
              simp [hc, ih List.mem_cons_self]
            · exact ih (List.mem_cons_of_mem _ hmem)

theorem not_mem_of_mem_split (hmem : part ∈ split separator s) : separator ∉ part.toList := by
  obtain ⟨word, hword, rfl⟩ := List.mem_map.1 hmem
  rw [String.toList_ofList]
  exact not_mem_of_mem_splitOn hword

/-- A text without the separator is one part. -/
theorem split_of_notMem (hfree : separator ∉ s.toList) : split separator s = [s] := by
  have hparts : split separator (join separator [s]) = [s] :=
    split_join (List.cons_ne_nil s []) fun part hpart => List.mem_singleton.1 hpart ▸ hfree
  rwa [join_singleton] at hparts

/-- The parts on both sides of a separator are those of the two sides. -/
theorem split_append (left right : String) :
    split separator (left ++ separator.toString ++ right) =
      split separator left ++ split separator right := by
  have hchars : (left ++ separator.toString ++ right).toList =
      left.toList ++ separator :: right.toList := by simp
  rw [split, hchars, List.splitOn, List.splitOnP_append_cons _ _ (by simp), List.map_append]
  rfl

/-! ## Marks -/

/-- The characters up to the point.  Of these no letter is made by lower case. -/
def IsMark (c : Char) : Prop := 0 < c.toNat ∧ c.toNat ≤ 46

instance : DecidablePred IsMark := fun c => inferInstanceAs (Decidable (0 < c.toNat ∧ c.toNat ≤ 46))

variable {mark : Char}

theorem IsMark.code_eq (hmark : IsMark mark) {code : Nat} (heq : Char.ofNat code = mark) :
    code = mark.toNat := by
  subst heq
  by_cases hvalid : code.isValidChar
  · rw [Char.ofNat, dif_pos hvalid]
    rfl
  · rw [Char.ofNat, dif_neg hvalid] at hmark
    cases hmark.1

theorem lowerShifts_above : ∀ shift ∈ lowerShifts, 46 < shift.span.first + shift.distance := by
  decide +kernel

/-- No mark comes from lowering another character. -/
theorem IsMark.eq_of_mem_lowerChar (hmark : IsMark mark) {c : Char} (hmem : mark ∈ lowerChar c) :
    c = mark := by
  rw [lowerChar] at hmem
  split at hmem
  next =>
    have hcases : mark = 'i' ∨ mark = '\u0307' := by simpa using hmem
    rcases hcases with rfl | rfl <;> exact absurd hmark (by decide)
  next =>
    split at hmem
    next shift hfind =>
      have hcode := hmark.code_eq (List.mem_singleton.1 hmem).symm
      have hshift := lowerShifts_above shift (List.mem_of_find?_eq_some hfind)
      have hspan := List.find?_some hfind
      simp only [Span.contains, Bool.and_eq_true, decide_eq_true_eq] at hspan
      have hlow := hmark.2
      omega
    next => exact (List.mem_singleton.1 hmem).symm

theorem IsMark.mem_of_mem_lowerAfter (hmark : IsMark mark) {before cs : List Char}
    (hmem : mark ∈ lowerAfter before cs) : mark ∈ cs := by
  induction cs generalizing before with
  | nil => exact hmem
  | cons c rest ih =>
      rw [lowerAfter, List.mem_append] at hmem
      rcases hmem with hfirst | hrest
      · split at hfirst
        · split at hfirst <;> rw [List.mem_singleton.1 hfirst] at hmark <;>
            exact absurd hmark (by decide)
        · exact hmark.eq_of_mem_lowerChar hfirst ▸ List.mem_cons_self
      · exact List.mem_cons_of_mem _ (ih hrest)

theorem IsMark.mem_of_mem_snakeFrom (hmark : IsMark mark) {joined : Bool} {cs : List Char}
    (hmem : mark ∈ snakeFrom joined cs) : mark ∈ cs := by
  induction cs generalizing joined with
  | nil => exact hmem
  | cons c rest ih =>
      rw [snakeFrom] at hmem
      split at hmem
      next =>
        rw [List.mem_append, List.mem_append] at hmem
        rcases hmem with (hjoint | hfirst) | hrest
        · split at hjoint
          · cases hjoint
          · rw [List.mem_singleton.1 hjoint] at hmark
            exact absurd hmark (by decide)
        · exact hmark.eq_of_mem_lowerChar hfirst ▸ List.mem_cons_self
        · exact List.mem_cons_of_mem _ (ih hrest)
      next =>
        rcases List.mem_cons.1 hmem with rfl | hrest
        · exact List.mem_cons_self
        · exact List.mem_cons_of_mem _ (ih hrest)

/-! ## Blanks -/

theorem not_isBlank_of_any {cs : List Char} (hnone : cs.any isBlank = false) :
    ∀ c ∈ cs, isBlank c = false := fun c hmem =>
  Bool.eq_false_iff.2 (List.any_eq_false.1 hnone c hmem)

theorem mem_of_mem_trimChars {c : Char} {cs : List Char} (hmem : c ∈ trimChars cs) :
    c ∈ cs := by
  have hstart : trimChars cs <+: trimStart cs := trimEnd_prefix _
  exact (List.dropWhile_suffix _).subset (hstart.subset hmem)

/-- Trimming takes only blanks away. -/
theorem mem_trimChars_iff {c : Char} {cs : List Char} (hblank : isBlank c = false) :
    c ∈ trimChars cs ↔ c ∈ cs := by
  have hdrop (cs : List Char) : c ∈ cs.dropWhile isBlank ↔ c ∈ cs := by
    rw [← List.takeWhile_append_dropWhile (p := isBlank) (l := cs), List.mem_append]
    have hskipped : c ∉ cs.takeWhile isBlank := fun hmem => by
      rw [List.all_eq_true.1 List.all_takeWhile c hmem] at hblank
      cases hblank
    simp [hskipped]
  rw [trimChars, trimEnd, List.mem_reverse, hdrop, List.mem_reverse, trimStart, hdrop]

theorem trim_trimStart (s : String) : trim (String.ofList (trimStart s.toList)) = trim s := by
  have hstart : trimStart (trimStart s.toList) = trimStart s.toList :=
    dropWhile_eq_self (head?_dropWhile _)
  rw [trim, trim, String.toList_ofList, trimChars, hstart, trimChars]

end Text

namespace Key

variable {segment key : String}

/-- Normal forms hold no mark that the segment does not hold. -/
theorem mem_of_mem_normalSegment {mark : Char} (hmark : Text.IsMark mark)
    (hmem : mark ∈ (normalSegment segment).toList) : mark ∈ segment.toList := by
  have hbare : mark ∈ (Text.trim segment).toList := by
    rw [normalSegment] at hmem
    split at hmem
    · rw [Text.toList_snake] at hmem
      exact hmark.mem_of_mem_snakeFrom hmem
    · rw [Text.toList_lower] at hmem
      exact hmark.mem_of_mem_lowerAfter hmem
  rw [Text.toList_trim] at hbare
  exact Text.mem_of_mem_trimChars hbare

/-- Blanks around a segment do not count. -/
theorem normalSegment_trim (segment : String) :
    normalSegment (Text.trim segment) = normalSegment segment := by
  rw [normalSegment, Text.trim_trim, normalSegment]

theorem normalSegment_trimStart (segment : String) :
    normalSegment (String.ofList (Text.trimStart segment.toList)) = normalSegment segment := by
  rw [← normalSegment_trim, Text.trim_trimStart, normalSegment_trim]

theorem normalSegment_of_blank (hblank : Text.trim segment = "") : normalSegment segment = "" := by
  rw [← normalSegment_trim, hblank]
  decide +kernel

/-- Normal forms of segments have no point. -/
theorem point_notMem_of_mem_normalSegments (hmem : segment ∈ normalSegments key) :
    '.' ∉ segment.toList := by
  obtain ⟨part, hpart, rfl⟩ := List.mem_map.1 hmem
  exact fun hpoint =>
    Text.not_mem_of_mem_split hpart (mem_of_mem_normalSegment (by decide) hpoint)

/-- The segments of a key in normal form are those of the key, each in normal form. -/
theorem segments_normal (key : String) : segments (normal key) = normalSegments key :=
  Text.split_join (normalSegments_ne_nil key) fun _ => point_notMem_of_mem_normalSegments

/-- The rest of a key behind its first segment has the rest of the segments. -/
theorem normalSegments_tail (hrest : (segments key).tail ≠ []) :
    normalSegments (ofSegments (segments key).tail) = (normalSegments key).tail := by
  have hsplit : segments (ofSegments (segments key).tail) = (segments key).tail :=
    Text.split_join hrest fun part hpart => Text.not_mem_of_mem_split (List.mem_of_mem_tail hpart)
  rw [normalSegments, hsplit, normalSegments, List.map_tail]

end Key

end RestQuery
