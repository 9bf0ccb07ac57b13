import RestQuery.Proofs.Filter.Sets

/-!
# Comparisons with numbers

A filter on a number compares the field with an integer.  Of the marks that the value starts with,
the longest tells which comparison it is, and no mark at all stands for equality.  What follows the
mark has to be an integer that 64 bits hold, with blanks around it or without; every other value is
refused as a whole.

Main statement: `Filter.compileText_comparisons`.
-/

namespace RestQuery

/-! ## Integers in decimal -/

/-- The decimal form of an integer denotes it. -/
theorem Text.denotesInteger_toString (k : Int) : DenotesInteger (toString k) k := by
  cases k with
  | ofNat n => exact .natural (Filter.denotes_toDigits n)
  | negSucc n => exact .negative (Filter.denotes_toDigits (n + 1))

namespace Filter

/-- No integer of 64 bits is read from a text that denotes none, or one that is too far from
zero. -/
theorem integer?_eq_none_iff {s : String} :
    integer? s.toList = none ↔ ∀ k, Text.DenotesInteger s k →
      k < -9223372036854775808 ∨ 9223372036854775807 < k := by
  rw [Option.eq_none_iff_forall_ne_some]
  constructor
  · intro hunread k hdenotes
    by_contra hfits
    rw [not_or, Int.not_lt, Int.not_lt] at hfits
    have hn : (Int64.ofInt k).toInt = k :=
      Int64.toInt_ofInt_of_le hfits.1 (Int.lt_add_one_of_le hfits.2)
    exact hunread (Int64.ofInt k) (integer?_eq_some_iff.2 (hn.symm ▸ hdenotes))
  · intro hfar n hread
    have hlow : -9223372036854775808 ≤ n.toInt := n.minValue_le_toInt
    have hhigh : n.toInt ≤ 9223372036854775807 := n.toInt_le
    have hn := hfar _ (integer?_eq_some_iff.1 hread)
    omega

/-! ## Comparisons -/

inductive Comparison
  | atLeast
  | atMost
  | above
  | below
  | equal

namespace Comparison

/-- The mark that a value with a comparison starts with. -/
def mark : Comparison → String
  | atLeast => ">="
  | atMost => "<="
  | above => ">"
  | below => "<"
  | equal => ""

def check : Comparison → Check
  | atLeast => .greaterThanOrEqual
  | atMost => .lessThanOrEqual
  | above => .greaterThan
  | below => .lessThan
  | equal => .equals

/-- The operator that the rule of a filter permits or refuses for a comparison. -/
def operator : Comparison → Operator
  | atLeast => .greaterThanOrEqual
  | atMost => .lessThanOrEqual
  | above => .greaterThan
  | below => .lessThan
  | equal => .equals

/-- A value starts with the mark of a comparison and with no longer one. -/
structure Leads (comparison : Comparison) (value rest : String) : Prop where
  starts : value = comparison.mark ++ rest
  longest {other : Comparison} {after : String} (hother : value = other.mark ++ after) :
    other.mark.length ≤ comparison.mark.length

variable {comparison : Comparison} {field : FieldRef} {value rest : String}

theorem length_mark_le (comparison : Comparison) : comparison.mark.length ≤ 2 := by
  cases comparison <;> decide

theorem mem_mark {c : Char} (hmem : c ∈ comparison.mark.toList) : c = '>' ∨ c = '<' ∨ c = '=' := by
  cases comparison <;> simp [mark] at hmem <;> tauto

/-- Some comparison leads every value: equality does, unless a longer mark is there. -/
theorem exists_leads (value : String) : ∃ comparison rest, Leads comparison value rest := by
  have hsome : {comparison | ∃ rest, value = mark comparison ++ rest}.Nonempty :=
    ⟨equal, value, by simp [mark]⟩
  obtain ⟨comparison, ⟨rest, hstarts⟩, hleast⟩ :=
    (measure fun comparison : Comparison => 2 - comparison.mark.length).wf.has_min _ hsome
  refine ⟨comparison, rest, hstarts, fun {other after} hother => ?_⟩
  have hnot : ¬2 - other.mark.length < 2 - comparison.mark.length := hleast other ⟨after, hother⟩
  have hother := other.length_mark_le
  omega

/-- A comparison leads its mark with a text that does not go on like a mark. -/
theorem leads_mark
    (hrest : ∀ c ∈ rest.toList.head?, ∀ other : Comparison, c ∉ other.mark.toList) :
    comparison.Leads (comparison.mark ++ rest) rest where
  starts := rfl
  longest {other after} hother := by
    have hchars : comparison.mark.toList ++ rest.toList = other.mark.toList ++ after.toList := by
      rw [← String.toList_append, hother, String.toList_append]
    rw [← String.length_toList, ← String.length_toList]
    rcases List.append_eq_append_iff.1 hchars with ⟨more, hmark, hmore⟩ | ⟨more, hmark, -⟩
    · cases more with
      | nil => rw [hmark, List.append_nil]
      | cons c more =>
          have hmem : c ∈ other.mark.toList := by simp [hmark]
          exact absurd hmem (hrest c (by simp [hmore]) other)
    · rw [hmark, List.length_append]
      exact Nat.le_add_right _ _

/-- The longest mark at the start of a value decides which comparison it asks for. -/
theorem readNumber_of_leads (hleads : comparison.Leads value rest)
    (hpresence : presence? field value = none) (hmembership : Membership.ofValue? value = none) :
    readNumber field value =
      compared comparison.operator comparison.check field value rest.toList := by
  have hstarts : value.toList = comparison.mark.toList ++ rest.toList := by
    rw [hleads.starts, String.toList_append]
  have hother : ∀ other : Comparison, comparison.mark.length < other.mark.length →
      ∀ after, comparison.mark.toList ++ rest.toList ≠ other.mark.toList ++ after := by
    intro other hlonger after hother
    have hvalue : value = other.mark ++ String.ofList after := by
      rw [← String.toList_inj, hstarts, hother, String.toList_append, String.toList_ofList]
    exact absurd (hleads.longest hvalue) (Nat.not_le.2 hlonger)
  rw [readNumber, hpresence, hmembership]
  dsimp only
  rw [hstarts]
  cases comparison with
  | atLeast => rfl
  | atMost => rfl
  | above =>
      split
      next heq => exact absurd heq (hother .atLeast (by decide) _)
      next heq => exact absurd heq (hother .atMost (by decide) _)
      next heq => exact congrArg _ (List.cons.inj heq).2.symm
      next heq => cases heq
      next hnot _ => exact absurd rfl (hnot _)
  | below =>
      split
      next heq => exact absurd heq (hother .atLeast (by decide) _)
      next heq => exact absurd heq (hother .atMost (by decide) _)
      next heq => cases heq
      next heq => exact congrArg _ (List.cons.inj heq).2.symm
      next hnot => exact absurd rfl (hnot _)
  | equal =>
      split
      next heq => exact absurd heq (hother .atLeast (by decide) _)
      next heq => exact absurd heq (hother .atMost (by decide) _)
      next heq => exact absurd heq (hother .above (by decide) _)
      next heq => exact absurd heq (hother .below (by decide) _)
      next => rfl

end Comparison

/-! ## Whole values -/

variable {field : FieldRef} {value rest : String}

theorem Membership.ofValue?_eq_none
    (hset : ∀ payload, value ≠ "$in:" ++ payload ∧ value ≠ "$nin:" ++ payload) :
    ofValue? value = none := by
  have hin : Text.rest? "$in:" value = none :=
    Option.eq_none_iff_forall_ne_some.2 fun payload hrest =>
      (hset payload).1 (Text.rest?_eq_some_iff.1 hrest)
  have hnotIn : Text.rest? "$nin:" value = none :=
    Option.eq_none_iff_forall_ne_some.2 fun payload hrest =>
      (hset payload).2 (Text.rest?_eq_some_iff.1 hrest)
  rw [ofValue?, hin, hnotIn]
  rfl

/-- A value for a number makes the comparison that leads it. -/
theorem compileText_of_leads {comparison : Comparison} (hleads : comparison.Leads value rest)
    (hempty : value ≠ "") (habsent : value ≠ "!")
    (hset : ∀ payload, value ≠ "$in:" ++ payload ∧ value ≠ "$nin:" ++ payload) :
    compileText .number field {} value =
      match integer? (Text.trim rest).toList with
      | some n => .ok [.onField comparison.check field [.integer n]]
      | none => .error (.invalidFilterValue value) := by
  have hpresence : presence? field value = none := by
    rw [presence?, if_neg hempty, if_neg habsent]
  have hread := comparison.readNumber_of_leads hleads hpresence (Membership.ofValue?_eq_none hset)
  have hcompile : compileText .number field {} value = (readNumber field value).clauses := rfl
  rw [hcompile, hread, compared, Text.toList_trim]
  cases integer? (Text.trimChars rest.toList) <;> rfl

theorem mem_toString {k : Int} {c : Char} (hmem : c ∈ (toString k).toList) :
    c = '-' ∨ c.isDigit = true := by
  generalize htext : toString k = s at hmem
  cases htext ▸ Text.denotesInteger_toString k with
  | natural hdenotes => exact .inr (hdenotes.digits c hmem)
  | negative hdenotes =>
      rw [String.toList_append, List.mem_append] at hmem
      exact hmem.imp List.mem_singleton.1 (hdenotes.digits c)

/-- No mark becomes a longer one by the number behind it. -/
theorem leads_toString (comparison : Comparison) (k : Int) :
    comparison.Leads (comparison.mark ++ toString k) (toString k) := by
  refine Comparison.leads_mark fun c hhead other hmark => ?_
  rcases mem_toString (List.mem_of_mem_head? hhead) with rfl | hdigit
  · exact absurd (Comparison.mem_mark hmark) (by decide)
  · rcases Comparison.mem_mark hmark with rfl | rfl | rfl <;> cases hdigit

/-- Neither marks nor integers have what a test for absence and a set begin with. -/
theorem mem_printed {comparison : Comparison} {k : Int} {c : Char}
    (hmem : c ∈ (comparison.mark ++ toString k).toList) : c ≠ '!' ∧ c ≠ '$' := by
  rw [String.toList_append, List.mem_append] at hmem
  rcases hmem with hmark | htext
  · rcases Comparison.mem_mark hmark with rfl | rfl | rfl <;> decide
  · rcases mem_toString htext with rfl | hdigit
    · decide
    · constructor <;> rintro rfl <;> cases hdigit

/-- A comparison with an integer that is printed is read back. -/
theorem compileText_printed (comparison : Comparison) (n : Int64) :
    compileText .number field {} (comparison.mark ++ toString n.toInt) =
      .ok [.onField comparison.check field [.integer n]] := by
  have hdenotes := Text.denotesInteger_toString n.toInt
  obtain ⟨hsome, hblank⟩ := not_blank_of_denotesInteger hdenotes
  have hempty : comparison.mark ++ toString n.toInt ≠ "" := fun heq =>
    hsome (String.append_eq_empty_iff.1 heq).2
  have habsent : comparison.mark ++ toString n.toInt ≠ "!" := fun heq =>
    (mem_printed (c := '!') (by rw [heq]; simp)).1 rfl
  have hdollar : ∀ rest, (comparison.mark ++ toString n.toInt).toList ≠ '$' :: rest :=
    fun rest heq => (mem_printed (heq ▸ List.mem_cons_self)).2 rfl
  have hset : ∀ payload, comparison.mark ++ toString n.toInt ≠ "$in:" ++ payload ∧
      comparison.mark ++ toString n.toInt ≠ "$nin:" ++ payload := fun payload =>
    ⟨fun heq => hdollar ("in:".toList ++ payload.toList) (by rw [heq]; simp),
      fun heq => hdollar ("nin:".toList ++ payload.toList) (by rw [heq]; simp)⟩
  have htrim : Text.trim (toString n.toInt) = toString n.toInt := by
    rw [Text.trim, Text.trimChars_eq_self hblank, String.ofList_toList]
  rw [compileText_of_leads (leads_toString comparison n.toInt) hempty habsent hset, htrim,
    integer?_eq_some_iff.2 hdenotes]

/-- A value for a number that is no test for presence and no set makes one comparison, the one that
leads it.  Clauses result if an integer of 64 bits follows, with blanks around it or without, and
they compare with just that integer.  Otherwise the value as a whole is the problem.  So a mark with
the decimal form of an integer is read back. -/
theorem compileText_comparisons (field : FieldRef) :
    (∀ value, value ≠ "" → value ≠ "!" →
      (∀ payload, value ≠ "$in:" ++ payload ∧ value ≠ "$nin:" ++ payload) →
      (∃ comparison rest, Comparison.Leads comparison value rest) ∧
      ∀ {comparison rest}, Comparison.Leads comparison value rest →
        (∀ clauses, compileText .number field {} value = .ok clauses ↔
          ∃ n : Int64, Text.DenotesInteger (Text.trim rest) n.toInt ∧
            clauses = [.onField comparison.check field [.integer n]]) ∧
        ∀ problem, compileText .number field {} value = .error problem ↔
          problem = .invalidFilterValue value ∧ ∀ k, Text.DenotesInteger (Text.trim rest) k →
            k < -9223372036854775808 ∨ 9223372036854775807 < k) ∧
    ∀ (comparison : Comparison) (n : Int64),
      compileText .number field {} (comparison.mark ++ toString n.toInt) =
        .ok [.onField comparison.check field [.integer n]] := by
  refine ⟨fun value hempty habsent hset => ⟨Comparison.exists_leads value, ?_⟩, ?_⟩
  · intro comparison rest hleads
    rw [compileText_of_leads hleads hempty habsent hset]
    simp only [← integer?_eq_some_iff, ← integer?_eq_none_iff]
    cases integer? (Text.trim rest).toList with
    | none => simp [eq_comm]
    | some n => simp [eq_comm]
  · exact compileText_printed

/-- A comparison with zeros and blanks before the digits, and one with an integer that is just too
large. -/
theorem compileText_comparisons_beds :
    compileText .number ⟨.resource, "beds"⟩ {} ">= -042" =
      .ok [.onField .greaterThanOrEqual ⟨.resource, "beds"⟩ [.integer (-42)]] ∧
    compileText .number ⟨.resource, "beds"⟩ {} "<9223372036854775808" =
      .error (.invalidFilterValue "<9223372036854775808") := by
  have hatLeast : Comparison.atLeast.Leads ">= -042" " -042" :=
    @Comparison.leads_mark .atLeast " -042" fun c hhead other hmark => by
      obtain rfl : ' ' = c := Option.some.inj hhead
      exact absurd (Comparison.mem_mark hmark) (by decide)
  have hbelow : Comparison.below.Leads "<9223372036854775808" "9223372036854775808" :=
    leads_toString .below 9223372036854775808
  have hdenotes : Text.DenotesInteger (Text.trim " -042") (-42 : Int64).toInt :=
    @Text.DenotesInteger.negative "042" 42
      ⟨by decide, List.all_eq_true.1 (by decide), by decide⟩
  have hunread : integer? (Text.trim "9223372036854775808").toList = none := by decide +kernel
  constructor
  · exact (((compileText_comparisons ⟨.resource, "beds"⟩).1 _ (by decide) (by decide)
      (by simp [← String.toList_inj])).2 hatLeast).1 _ |>.2 ⟨-42, hdenotes, rfl⟩
  · exact (((compileText_comparisons ⟨.resource, "beds"⟩).1 _ (by decide) (by decide)
      (by simp [← String.toList_inj])).2 hbelow).2 _ |>.2 ⟨rfl, integer?_eq_none_iff.1 hunread⟩

end Filter

end RestQuery
