import RestQuery.Text.Span

/-!
# White space

The characters with the property `White_Space`, the removal of blanks at both ends of a text,
and the words between blanks.  A zero-width space and a byte-order mark are no blanks; a
no-break space is one.

Main statements: `trim_trim`, and `trimChars_eq_self_iff`, which says that a text is its own
trimmed form exactly when neither end is blank.
-/

namespace RestQuery.Text

/-- Characters with the property `White_Space`. -/
def blankSpans : List Span :=
  [⟨0x9, 0xD, 1⟩, ⟨0x20, 0x20, 1⟩, ⟨0x85, 0x85, 1⟩, ⟨0xA0, 0xA0, 1⟩, ⟨0x1680, 0x1680, 1⟩,
   ⟨0x2000, 0x200A, 1⟩, ⟨0x2028, 0x2029, 1⟩, ⟨0x202F, 0x202F, 1⟩, ⟨0x205F, 0x205F, 1⟩,
   ⟨0x3000, 0x3000, 1⟩]

def isBlank (c : Char) : Bool := covered blankSpans c

example : isBlank ' ' = true ∧ isBlank '\t' = true ∧ isBlank '\u00a0' = true := by decide
example : isBlank '\u200b' = false ∧ isBlank '\ufeff' = false := by decide

/-- Every blank of ASCII is white space. -/
theorem isBlank_of_isWhitespace {c : Char} (h : c.isWhitespace = true) : isBlank c = true := by
  simp only [Char.isWhitespace, Bool.or_eq_true, decide_eq_true_eq] at h
  rcases h with ((rfl | rfl) | rfl) | rfl <;> decide

theorem isBlank_of_isDigit {c : Char} (hdigit : c.isDigit = true) : isBlank c = false := by
  simp only [Char.isDigit, Bool.and_eq_true, decide_eq_true_eq, ge_iff_le] at hdigit
  have hlow : 48 ≤ c.toNat := hdigit.1
  have hhigh : c.toNat ≤ 57 := hdigit.2
  simp [isBlank, blankSpans, Span.contains]
  omega

def trimStart (cs : List Char) : List Char := cs.dropWhile isBlank

def trimEnd (cs : List Char) : List Char := (cs.reverse.dropWhile isBlank).reverse

def trimChars (cs : List Char) : List Char := trimEnd (trimStart cs)

def trim (s : String) : String := String.ofList (trimChars s.toList)

/-- The longest stretches of a text without a blank, in order. -/
def words (s : String) : List String :=
  ((s.toList.splitOnP isBlank).filter (!·.isEmpty)).map String.ofList

@[simp]
theorem toList_trim (s : String) : (trim s).toList = trimChars s.toList := by
  simp [trim]

theorem head?_dropWhile (cs : List Char) :
    ∀ c ∈ (cs.dropWhile isBlank).head?, isBlank c = false := by
  induction cs with
  | nil => simp
  | cons c rest ih =>
    rw [List.dropWhile_cons]
    split
    · exact ih
    · simp_all

theorem dropWhile_eq_self {cs : List Char} (h : ∀ c ∈ cs.head?, isBlank c = false) :
    cs.dropWhile isBlank = cs := by
  cases cs with
  | nil => rfl
  | cons c rest => simp [h c (by simp)]

theorem trimEnd_eq_self {cs : List Char} (h : ∀ c ∈ cs.getLast?, isBlank c = false) :
    trimEnd cs = cs := by
  rw [trimEnd, dropWhile_eq_self (by simpa using h), List.reverse_reverse]

theorem getLast?_trimEnd (cs : List Char) :
    ∀ c ∈ (trimEnd cs).getLast?, isBlank c = false := by
  rw [trimEnd, List.getLast?_reverse]
  exact head?_dropWhile cs.reverse

/-- Trimming at the end leaves the start of a text as it is. -/
theorem trimEnd_prefix (cs : List Char) : trimEnd cs <+: cs := by
  have h : cs.reverse.dropWhile isBlank <:+ cs.reverse := List.dropWhile_suffix _
  rw [← List.reverse_prefix, List.reverse_reverse] at h
  exact h

theorem head?_trimChars (cs : List Char) :
    ∀ c ∈ (trimChars cs).head?, isBlank c = false := by
  intro c hc
  obtain ⟨rest, hrest⟩ := trimEnd_prefix (trimStart cs)
  refine head?_dropWhile cs c ?_
  rw [trimChars] at hc
  rw [← trimStart, ← hrest]
  cases htrim : trimEnd (trimStart cs) with
  | nil => simp [htrim] at hc
  | cons head tail => simpa [htrim] using hc

theorem getLast?_trimChars (cs : List Char) :
    ∀ c ∈ (trimChars cs).getLast?, isBlank c = false :=
  getLast?_trimEnd _

/-- A text is trimmed exactly when neither of its ends is blank. -/
theorem trimChars_eq_self_iff {cs : List Char} :
    trimChars cs = cs ↔
      (∀ c ∈ cs.head?, isBlank c = false) ∧ ∀ c ∈ cs.getLast?, isBlank c = false := by
  constructor
  · exact fun h => ⟨h ▸ head?_trimChars cs, h ▸ getLast?_trimChars cs⟩
  · rintro ⟨hhead, hlast⟩
    rw [trimChars, trimStart, dropWhile_eq_self hhead, trimEnd_eq_self hlast]

/-- Blanks before a text do not count. -/
theorem trimStart_append {before cs : List Char} (hbefore : ∀ c ∈ before, isBlank c = true) :
    trimStart (before ++ cs) = trimStart cs :=
  List.dropWhile_append_of_pos hbefore

theorem trimEnd_append {cs after : List Char} (hafter : ∀ c ∈ after, isBlank c = true) :
    trimEnd (cs ++ after) = trimEnd cs := by
  rw [trimEnd, List.reverse_append, List.dropWhile_append_of_pos (by simpa using hafter), trimEnd]

/-- Blanks around a trimmed text are removed. -/
theorem trimChars_append {before cs after : List Char} (hbefore : ∀ c ∈ before, isBlank c = true)
    (hafter : ∀ c ∈ after, isBlank c = true) (hcs : trimChars cs = cs) :
    trimChars (before ++ (cs ++ after)) = cs := by
  rw [trimChars, trimStart_append hbefore]
  cases cs with
  | nil =>
      have hnone : trimStart (after ++ []) = [] := trimStart_append hafter
      rw [List.append_nil] at hnone
      rw [List.nil_append, hnone]
      rfl
  | cons c rest =>
      obtain ⟨hhead, hlast⟩ := trimChars_eq_self_iff.1 hcs
      rw [trimStart, dropWhile_eq_self (by simpa using hhead), trimEnd_append hafter,
        trimEnd_eq_self hlast]

@[simp]
theorem trimChars_trimChars (cs : List Char) : trimChars (trimChars cs) = trimChars cs :=
  trimChars_eq_self_iff.2 ⟨head?_trimChars cs, getLast?_trimChars cs⟩

/-- A trimmed text has nothing left to trim. -/
@[simp]
theorem trim_trim (s : String) : trim (trim s) = trim s := by
  simp [trim]

theorem trimChars_eq_self {cs : List Char} (hblank : ∀ c ∈ cs, isBlank c = false) :
    trimChars cs = cs :=
  trimChars_eq_self_iff.2 ⟨fun c hmem => hblank c (List.mem_of_mem_head? hmem),
    fun c hmem => hblank c (List.mem_of_getLast? hmem)⟩

end RestQuery.Text
