import RestQuery.Sql.Build
import RestQuery.Sql.Text
import Mathlib.Data.List.Infix

/-!
# Patterns

In a pattern a percent sign stands for any text, an underscore for any one character, and a
backslash takes away the meaning of the character behind it; a pattern that ends in a
backslash matches nothing.  Letter case plays no part here.

Main statement: the tests that take a pattern accept the texts that hold the operand
somewhere, in front, at the end or alone, whatever characters the operand has.
-/

namespace RestQuery.Sql

/-! ## What a pattern matches -/

/-- A text matches a pattern. -/
inductive Matches : List Char → List Char → Prop where
  | nil : Matches [] []
  | any (skipped : List Char) {p rest : List Char} (hrest : Matches p rest) :
      Matches ('%' :: p) (skipped ++ rest)
  | one (c : Char) {p rest : List Char} (hrest : Matches p rest) :
      Matches ('_' :: p) (c :: rest)
  | escaped (c : Char) {p rest : List Char} (hrest : Matches p rest) :
      Matches ('\\' :: c :: p) (c :: rest)
  | same {c : Char} {p rest : List Char} (hplain : c ≠ '\\' ∧ c ≠ '%' ∧ c ≠ '_')
      (hrest : Matches p rest) : Matches (c :: p) (c :: rest)

variable {p t : List Char} {c : Char}

@[simp]
theorem matches_nil_iff : Matches [] t ↔ t = [] := by
  constructor
  · intro hmatches
    cases hmatches
    rfl
  · rintro rfl
    exact .nil

@[simp]
theorem matches_any_iff : Matches ('%' :: p) t ↔ ∃ rest, rest <:+ t ∧ Matches p rest := by
  constructor
  · intro hmatches
    cases hmatches with
    | any skipped hrest => exact ⟨_, List.suffix_append skipped _, hrest⟩
    | same hplain => exact absurd rfl hplain.2.1
  · rintro ⟨rest, ⟨skipped, rfl⟩, hrest⟩
    exact .any skipped hrest

@[simp]
theorem matches_one_iff : Matches ('_' :: p) t ↔ ∃ c rest, t = c :: rest ∧ Matches p rest := by
  constructor
  · intro hmatches
    cases hmatches with
    | one c hrest => exact ⟨c, _, rfl, hrest⟩
    | same hplain => exact absurd rfl hplain.2.2
  · rintro ⟨c, rest, rfl, hrest⟩
    exact .one c hrest

@[simp]
theorem matches_escaped_iff :
    Matches ('\\' :: c :: p) t ↔ ∃ rest, t = c :: rest ∧ Matches p rest := by
  constructor
  · intro hmatches
    cases hmatches with
    | escaped _ hrest => exact ⟨_, rfl, hrest⟩
    | same hplain => exact absurd rfl hplain.1
  · rintro ⟨rest, rfl, hrest⟩
    exact .escaped c hrest

@[simp]
theorem not_matches_backslash : ¬ Matches ['\\'] t := by
  intro hmatches
  cases hmatches with
  | same hplain => exact hplain.1 rfl

/-- A character without a meaning of its own matches itself only. -/
theorem matches_same_iff (hplain : c ≠ '\\' ∧ c ≠ '%' ∧ c ≠ '_') :
    Matches (c :: p) t ↔ ∃ rest, t = c :: rest ∧ Matches p rest := by
  constructor
  · intro hmatches
    cases hmatches with
    | any => exact absurd rfl hplain.2.1
    | one => exact absurd rfl hplain.2.2
    | escaped => exact absurd rfl hplain.1
    | same _ hrest => exact ⟨_, rfl, hrest⟩
  · rintro ⟨rest, rfl, hrest⟩
    exact .same hplain hrest

theorem exists_cons_iff {α : Type} {P : List α → Prop} {x : α} {xs : List α} :
    (∃ rest, xs = x :: rest ∧ P rest) ↔ xs.head? = some x ∧ P xs.tail := by
  cases xs with
  | nil => simp
  | cons y rest => simp [eq_comm]

/-- Whether a text matches is found by trying all that the percent signs may stand for. -/
instance decideMatches : (p t : List Char) → Decidable (Matches p t)
  | [], t => decidable_of_iff (t = []) matches_nil_iff.symm
  | c :: p, t =>
      if hescape : c = '\\' then
        match p with
        | [] => isFalse (hescape ▸ not_matches_backslash)
        | d :: p =>
            have := decideMatches p t.tail
            decidable_of_iff (t.head? = some d ∧ Matches p t.tail)
              (by rw [hescape, matches_escaped_iff, exists_cons_iff])
      else if hany : c = '%' then
        have := decideMatches p
        decidable_of_iff (∃ rest ∈ t.tails, Matches p rest) (by simp [hany])
      else if hone : c = '_' then
        have := decideMatches p t.tail
        decidable_of_iff (t ≠ [] ∧ Matches p t.tail) (by cases t <;> simp [hone])
      else
        have := decideMatches p t.tail
        decidable_of_iff (t.head? = some c ∧ Matches p t.tail)
          (by rw [matches_same_iff ⟨hescape, hany, hone⟩, exists_cons_iff])

/-! ## What an escaped text matches -/

theorem escapePattern_cons (c : Char) (s : List Char) :
    escapePattern (c :: s) =
      (if c = '\\' ∨ c = '%' ∨ c = '_' then ['\\', c] else [c]) ++ escapePattern s :=
  List.flatMap_cons

/-- An escaped text in front of a pattern matches that text and nothing else. -/
theorem matches_escapePattern_append (s : List Char) :
    Matches (escapePattern s ++ p) t ↔ ∃ rest, t = s ++ rest ∧ Matches p rest := by
  induction s generalizing t with
  | nil => simp [escapePattern]
  | cons c s ih =>
      have hcons (tail : List Char) :
          (∃ rest, t = c :: rest ∧ ∃ later, rest = s ++ later ∧ Matches tail later) ↔
            ∃ later, t = c :: s ++ later ∧ Matches tail later := by
        constructor
        · rintro ⟨_, rfl, later, rfl, hlater⟩
          exact ⟨later, rfl, hlater⟩
        · rintro ⟨later, rfl, hlater⟩
          exact ⟨s ++ later, rfl, later, rfl, hlater⟩
      rw [escapePattern_cons, ← hcons]
      split
      next _ => simp only [List.cons_append, List.nil_append, matches_escaped_iff, ih]
      next hplain =>
        rw [List.append_assoc, List.singleton_append, matches_same_iff (by simpa using hplain)]
        simp only [ih]

/-- What a pattern made from a text matches: the text, and what may stand around it. -/
theorem matches_pattern_iff {before after : Bool} {s t : String} :
    Matches (pattern before after s).toList t.toList ↔
      ∃ front behind, t.toList = front ++ s.toList ++ behind ∧
        (before = false → front = []) ∧ (after = false → behind = []) := by
  have hbehind (rest : List Char) :
      Matches (if after then ['%'] else []) rest ↔ (after = false → rest = []) := by
    cases after <;> simp [List.nil_suffix]
  have htail (rest : List Char) :
      Matches (escapePattern s.toList ++ if after then ['%'] else []) rest ↔
        ∃ behind, rest = s.toList ++ behind ∧ (after = false → behind = []) := by
    simp only [matches_escapePattern_append, hbehind]
  rw [pattern, String.toList_ofList, List.append_assoc]
  cases before with
  | false =>
      rw [if_neg Bool.false_ne_true, List.nil_append, htail]
      simp
  | true =>
      rw [if_pos rfl, List.singleton_append, matches_any_iff]
      simp only [htail, reduceCtorEq, false_implies, true_and]
      constructor
      · rintro ⟨_, ⟨front, hfront⟩, behind, rfl, hnone⟩
        exact ⟨front, behind, by rw [← hfront, List.append_assoc], hnone⟩
      · rintro ⟨front, behind, htext, hnone⟩
        exact ⟨_, ⟨front, by rw [htext, List.append_assoc]⟩, behind, rfl, hnone⟩

/-- A pattern with any text on both sides matches what contains the text. -/
theorem matches_contains {s t : String} :
    Matches (pattern true true s).toList t.toList ↔ s.toList <:+: t.toList := by
  simp [matches_pattern_iff, List.IsInfix, eq_comm]

/-- A pattern with any text behind it matches what starts with the text. -/
theorem matches_startsWith {s t : String} :
    Matches (pattern false true s).toList t.toList ↔ s.toList <+: t.toList := by
  simp [matches_pattern_iff, List.IsPrefix, eq_comm]

/-- A pattern with any text before it matches what ends with the text. -/
theorem matches_endsWith {s t : String} :
    Matches (pattern true false s).toList t.toList ↔ s.toList <:+ t.toList := by
  simp [matches_pattern_iff, List.IsSuffix, eq_comm]

/-- A pattern with nothing around it matches the text and nothing else. -/
theorem matches_alone {s t : String} :
    Matches (pattern false false s).toList t.toList ↔ t = s := by
  simp [matches_pattern_iff, String.toList_inj]

example : Matches (pattern true true "5%\\").toList "now 5%\\ off".toList ∧
    ¬ Matches (pattern true true "5%\\").toList "now 50 off".toList := by decide +kernel

/-! ## Tests that take a pattern -/

/-- A clause is written as its field compared with one pattern, which matches the texts that
are accepted. -/
def Compares (clause : Clause) (operator : String) (accepts : String → Prop) : Prop :=
  ∀ site : Site, ∃ bound : String,
    (site.condition clause).pieces =
        ((clause.field.map site.column).map Column.pieces).getD [] ++
          [.text operator, .value (.text bound)] ∧
      ∀ t : String, Matches bound.toList t.toList ↔ accepts t

/-- An escaped text matches itself and nothing else, and each test that takes a pattern
accepts by the operand as it was given, with no character of it read as a wildcard. -/
theorem patterns_literal (s : String) (field : Option FieldRef) (others : List Operand)
    (parts : List Clause) :
    (∀ t : String, Matches (escapePattern s.toList) t.toList ↔ t = s) ∧
    Compares ⟨.test .likeContains, field, .text s :: others, parts⟩ "::text ILIKE "
      (fun t => s.toList <:+: t.toList) ∧
    Compares ⟨.test .likePrefix, field, .text s :: others, parts⟩ "::text ILIKE "
      (fun t => s.toList <+: t.toList) ∧
    Compares ⟨.test .likeSuffix, field, .text s :: others, parts⟩ "::text ILIKE "
      (fun t => s.toList <:+ t.toList) ∧
    Compares ⟨.test .notLike, field, .text s :: others, parts⟩ "::text NOT ILIKE " (· = s) := by
  refine ⟨fun t => ?_, fun site => ⟨_, rfl, fun _ => matches_contains⟩,
    fun site => ⟨_, rfl, fun _ => matches_startsWith⟩,
    fun site => ⟨_, rfl, fun _ => matches_endsWith⟩, fun site => ⟨_, rfl, fun _ => matches_alone⟩⟩
  have hescaped := matches_escapePattern_append s.toList (p := []) (t := t.toList)
  rw [List.append_nil] at hescaped
  simpa [String.toList_inj] using hescaped

end RestQuery.Sql
