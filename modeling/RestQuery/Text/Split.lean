/-!
# Texts in parts

Splitting at a separating character, joining with it, and the removal of a known beginning.

Main statements: `join_split` and `split_join` say that splitting and joining undo each other,
the latter for parts that do not hold the separator; `join_append_inj` allows it in the last
part.
-/

namespace RestQuery.Text

/-- The parts of a text between the occurrences of a character; never an empty list. -/
def split (separator : Char) (s : String) : List String :=
  (s.toList.splitOn separator).map String.ofList

def join (separator : Char) (parts : List String) : String :=
  String.ofList ([separator].intercalate (parts.map String.toList))

/-- What follows a known beginning, if the text has it. -/
def rest? (beginning s : String) : Option String :=
  if beginning.toList.isPrefixOf s.toList then
    some (String.ofList (s.toList.drop beginning.toList.length))
  else none

/-- The two sides of the first occurrence of a character. -/
def splitOnce (separator : Char) (s : String) : Option (String × String) :=
  match split separator s with
  | first :: second :: others => some (first, join separator (second :: others))
  | _ => none

/-- A text has at least one part. -/
@[simp]
theorem split_ne_nil (separator : Char) (s : String) : split separator s ≠ [] := by
  simp [split]

@[simp]
theorem join_singleton (separator : Char) (s : String) : join separator [s] = s := by
  simp [join]

theorem join_cons_cons (separator : Char) (first second : String) (rest : List String) :
    join separator (first :: second :: rest) =
      join separator ((first ++ separator.toString ++ second) :: rest) := by
  simp only [join, List.map_cons, List.intercalate]
  cases rest <;> simp

theorem join_cons {separator : Char} {rest : List String} (part : String) (hrest : rest ≠ []) :
    join separator (part :: rest) = part ++ separator.toString ++ join separator rest := by
  cases rest with
  | nil => exact absurd rfl hrest
  | cons second others => simp [join, List.intercalate, ← String.toList_inj]

/-- The parts of a text make up the text. -/
theorem join_split (separator : Char) (s : String) :
    join separator (split separator s) = s := by
  have hmap : (split separator s).map String.toList = s.toList.splitOn separator := by
    simp [split, Function.comp_def]
  rw [join, hmap, List.intercalate_splitOn, String.ofList_toList]

/-- Parts without the separator are found again in what is put together from them. -/
theorem split_join {separator : Char} {parts : List String} (hne : parts ≠ [])
    (hfree : ∀ part ∈ parts, separator ∉ part.toList) :
    split separator (join separator parts) = parts := by
  rw [split, join, String.toList_ofList,
    List.splitOn_intercalate separator (by simpa using hfree) (by simpa using hne)]
  simp [Function.comp_def]

/-- Texts agree on both sides of the first separator. -/
theorem eq_of_append_cons {separator : Char} {left right before after : List Char}
    (hleft : separator ∉ left) (hright : separator ∉ right)
    (heq : left ++ separator :: before = right ++ separator :: after) :
    left = right ∧ before = after := by
  rcases List.append_eq_append_iff.1 heq with ⟨between, rfl, hrest⟩ | ⟨between, rfl, hrest⟩ <;>
    cases between <;> simp_all

/-- As many parts without the separator, with one more part behind them, are told apart by the
text that they make. -/
theorem join_append_inj {separator : Char} {left right : List String} {last other : String}
    (hlength : left.length = right.length) (hleft : ∀ part ∈ left, separator ∉ part.toList)
    (hright : ∀ part ∈ right, separator ∉ part.toList)
    (heq : join separator (left ++ [last]) = join separator (right ++ [other])) :
    left = right ∧ last = other := by
  induction left generalizing right with
  | nil =>
      obtain rfl := List.eq_nil_of_length_eq_zero hlength.symm
      exact ⟨rfl, by simpa using heq⟩
  | cons first rest ih =>
      cases right with
      | nil => cases hlength
      | cons second others =>
          rw [List.forall_mem_cons] at hleft hright
          rw [List.cons_append, List.cons_append, join_cons first (by simp),
            join_cons second (by simp)] at heq
          have hlists : first.toList ++ separator :: (join separator (rest ++ [last])).toList =
              second.toList ++ separator :: (join separator (others ++ [other])).toList := by
            simpa using congrArg String.toList heq
          obtain ⟨hfirst, hjoin⟩ := eq_of_append_cons hleft.1 hright.1 hlists
          obtain ⟨rfl, rfl⟩ :=
            ih (Nat.succ.inj hlength) hleft.2 hright.2 (String.toList_inj.1 hjoin)
          exact ⟨congrArg (· :: rest) (String.toList_inj.1 hfirst), rfl⟩

theorem toList_of_splitOnce {separator : Char} {s first rest : String}
    (hsplit : splitOnce separator s = some (first, rest)) :
    s.toList = first.toList ++ separator :: rest.toList := by
  unfold splitOnce at hsplit
  split at hsplit
  · rename_i head second others hparts
    simp only [Option.some.injEq, Prod.mk.injEq] at hsplit
    obtain ⟨rfl, rfl⟩ := hsplit
    have hjoin := join_split separator s
    rw [hparts] at hjoin
    rw [← hjoin]
    simp [join, List.intercalate]
  · cases hsplit

/-- The rest is what follows the beginning. -/
theorem rest?_eq_some_iff {beginning s rest : String} :
    rest? beginning s = some rest ↔ s = beginning ++ rest := by
  rw [rest?]
  constructor
  · intro h
    split at h
    · rename_i hpre
      obtain ⟨tail, htail⟩ := List.isPrefixOf_iff_prefix.1 hpre
      injection h with h
      rw [← h, ← String.toList_inj, String.toList_append, String.toList_ofList, ← htail]
      simp
    · simp at h
  · rintro rfl
    simp

end RestQuery.Text
