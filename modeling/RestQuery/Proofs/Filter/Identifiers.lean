import Mathlib.Data.List.OfFn
import RestQuery.Plan.Json
import RestQuery.Proofs.Filter.Numbers
import RestQuery.Proofs.Uuid

/-!
# Filters on identifiers

A filter on an identifier compares the field with one identifier, for equality or, behind an
exclamation mark, for the opposite.  The identifier has to be a random one in its written form, in
letters of either case: of its thirty-six places each has the characters that may stand there.  A
value with any other text is refused before it is asked whether the rule of the filter permits the
comparison.

Main statement: `Filter.compileText_identifiers`.
-/

namespace RestQuery

/-! ## Places -/

/-- A character is its lower-case form or the upper-case form of that. -/
theorem Text.eq_toLower_or (c : Char) : c = c.toLower ∨ c = c.toLower.toUpper := by
  rcases toLower_cases c with ⟨hlow, hhigh, -⟩ | ⟨-, hlower⟩
  · obtain ⟨letter, rfl⟩ : ∃ letter : Fin 26, c = Char.ofNat (65 + letter) :=
      ⟨⟨c.toNat - 65, by omega⟩, by rw [Nat.add_sub_cancel' hlow, Char.ofNat_toNat]⟩
    clear hlow hhigh
    revert letter
    decide
  · exact .inl hlower.symm

namespace Uuid

/-- The places of the hyphens between the groups. -/
def hyphens : List (Fin 36) := [8, 13, 18, 23]

/-- The characters that a random identifier can have at a place of its written form, in letters of
either case: hyphens between the groups, the digit of the version, one of the digits of the variant
and else any digit. -/
def allowed (place : Fin 36) : List Char :=
  if place ∈ hyphens then ['-']
  else if place = 14 then ['4']
  else if place = 19 then ['8', '9', 'a', 'b', 'A', 'B']
  else ['0', '1', '2', '3', '4', '5', '6', '7', '8', '9', 'a', 'b', 'c', 'd', 'e', 'f',
    'A', 'B', 'C', 'D', 'E', 'F']

/-- A text of thirty-six characters, each of which may stand at its place. -/
def IsForm (s : String) : Prop :=
  ∃ places : Fin 36 → Char, s.toList = List.ofFn places ∧ ∀ place, places place ∈ allowed place

/-- The digit at a place: the hyphens before it do not count. -/
def digitAt (place : Fin 36) : Fin 32 :=
  Fin.ofNat 32 (place - (hyphens.filter (· < place)).length)

def placeOf (digit : Fin 32) : Fin 36 :=
  Fin.ofNat 36 (digit + ([8, 12, 16, 20].filter (· ≤ digit)).length)

theorem placeOf_digitAt : ∀ place ∉ hyphens, placeOf (digitAt place) = place := by decide

/-- Whether a digit is one for the version or for the variant, at the places where these stand. -/
def Fits (place : Fin 36) (digit : Fin 16) : Prop :=
  (place = 14 → digit.val = 4) ∧ (place = 19 → 8 ≤ digit.val ∧ digit.val ≤ 11)

instance (place : Fin 36) (digit : Fin 16) : Decidable (Fits place digit) :=
  inferInstanceAs (Decidable (_ ∧ _))

theorem exists_fits_of_mem_allowed : ∀ place ∉ hyphens, ∀ c ∈ allowed place,
    ∃ digit ∈ Text.hexValue? c, Fits place digit := by
  have hall : ∀ place ∉ hyphens, (allowed place).all fun c =>
      ∃ digit ∈ Text.hexValue? c, Fits place digit := by decide +kernel
  exact fun place hplace c hmem =>
    of_decide_eq_true (List.all_eq_true.1 (hall place hplace) c hmem)

theorem hexDigit_mem_allowed : ∀ place ∉ hyphens, ∀ digit, Fits place digit →
    Text.hexDigit digit ∈ allowed place ∧ (Text.hexDigit digit).toUpper ∈ allowed place := by
  decide +kernel

/-- A character may stand at a place if it is a digit, in lower case or in upper case, that
fits. -/
theorem mem_allowed_iff {place : Fin 36} (hplace : place ∉ hyphens) {c : Char} :
    c ∈ allowed place ↔ ∃ digit, c.toLower = Text.hexDigit digit ∧ Fits place digit := by
  simp only [← Text.hexValue?_eq_some_iff]
  refine ⟨exists_fits_of_mem_allowed place hplace c, ?_⟩
  rintro ⟨digit, hvalue, hfits⟩
  have hdigit := Text.hexValue?_eq_some_iff.1 hvalue
  obtain ⟨hlower, hupper⟩ := hexDigit_mem_allowed place hplace digit hfits
  rcases Text.eq_toLower_or c with heq | heq
  · rw [heq, hdigit]
    exact hlower
  · rw [heq, hdigit]
    exact hupper

theorem mem_allowed_hyphen {place : Fin 36} (hplace : place ∈ hyphens) {c : Char} :
    c ∈ allowed place ↔ c = '-' := by
  rw [allowed, if_pos hplace, List.mem_singleton]

/-- The written form, place by place. -/
theorem toList_text (id : Uuid) :
    id.text.toList = List.ofFn fun place =>
      if place ∈ hyphens then '-' else Text.hexDigit id.digits[digitAt place] := by
  obtain ⟨digits, rfl⟩ : ∃ digits, id = ⟨Vector.ofFn digits⟩ :=
    ⟨id.digits.get, congrArg Uuid.mk <| Vector.ext fun _ _ => by rw [Vector.getElem_ofFn]; rfl⟩
  simp only [Fin.getElem_fin, Vector.getElem_ofFn]
  rw [text, String.toList_ofList, Vector.toList_ofFn, List.map_ofFn]
  rfl

/-- An identifier is random if all its digits fit where they stand. -/
theorem isRandom_iff {id : Uuid} :
    id.isRandom = true ↔ ∀ place ∉ hyphens, Fits place id.digits[digitAt place] := by
  have hrandom : id.isRandom = true ↔
      id.digits[digitAt 14].val = 4 ∧ 8 ≤ id.digits[digitAt 19].val ∧
        id.digits[digitAt 19].val ≤ 11 := by
    simp only [isRandom, Bool.and_eq_true, beq_iff_eq, decide_eq_true_eq, and_assoc]
    rfl
  rw [hrandom]
  constructor
  · rintro ⟨hversion, hvariant⟩ place -
    constructor <;> rintro rfl
    · exact hversion
    · exact hvariant
  · intro hfits
    exact ⟨(hfits 14 (by decide)).1 rfl, (hfits 19 (by decide)).2 rfl⟩

/-- A text of the form is the written form of a random identifier, but for the case of letters. -/
theorem exists_of_isForm {s : String} (hform : IsForm s) :
    ∃ id : Uuid, s.toList.map Char.toLower = id.text.toList ∧ id.isRandom = true := by
  obtain ⟨places, hs, hallowed⟩ := hform
  have hdigit : ∀ place : Fin 36, ∃ digit, place ∉ hyphens →
      (places place).toLower = Text.hexDigit digit ∧ Fits place digit := by
    intro place
    by_cases hplace : place ∈ hyphens
    · exact ⟨0, absurd hplace⟩
    · obtain ⟨digit, hdigit⟩ := (mem_allowed_iff hplace).1 (hallowed place)
      exact ⟨digit, fun _ => hdigit⟩
  choose digit hdigit using hdigit
  let id : Uuid := ⟨Vector.ofFn fun i => digit (placeOf i)⟩
  have hid : ∀ place ∉ hyphens, id.digits[digitAt place] = digit place := by
    intro place hplace
    rw [Fin.getElem_fin, Vector.getElem_ofFn, Fin.eta, placeOf_digitAt place hplace]
  refine ⟨id, ?_, isRandom_iff.2 fun place hplace => ?_⟩
  · rw [toList_text, hs, List.map_ofFn]
    refine congrArg List.ofFn (funext fun place => ?_)
    rw [Function.comp_apply]
    split
    next hplace =>
      rw [(mem_allowed_hyphen hplace).1 (hallowed place)]
      rfl
    next hplace => rw [hid place hplace, (hdigit place hplace).1]
  · rw [hid place hplace]
    exact (hdigit place hplace).2

/-- The written form of each random identifier is of the form, in letters of either case. -/
theorem isForm_of_eq_text {s : String} {id : Uuid}
    (htext : s.toList.map Char.toLower = id.text.toList) (hrandom : id.isRandom = true) :
    IsForm s := by
  have hlength : s.toList.length = 36 := by
    rw [← List.length_map Char.toLower, htext, toList_text, List.length_ofFn]
  obtain ⟨places, hs⟩ : ∃ places : Fin 36 → Char, s.toList = List.ofFn places := by
    refine ⟨fun place => s.toList[place], List.ext_getElem (by simp [hlength]) fun _ _ _ => ?_⟩
    rw [List.getElem_ofFn]
    rfl
  refine ⟨places, hs, fun place => ?_⟩
  rw [hs, toList_text, List.map_ofFn] at htext
  have hplace := congrFun (List.ofFn_injective htext) place
  rw [Function.comp_apply] at hplace
  split at hplace
  next hhyphen =>
    rw [mem_allowed_hyphen hhyphen]
    exact Text.toLower_eq_hyphen_iff.1 hplace
  next hdigit =>
    exact (mem_allowed_iff hdigit).2 ⟨_, hplace, isRandom_iff.1 hrandom place hdigit⟩

/-- A text has the form of a random identifier exactly if it is the written form of one but for the
case of letters. -/
theorem isForm_iff {s : String} :
    IsForm s ↔ ∃ id : Uuid, s.toList.map Char.toLower = id.text.toList ∧ id.isRandom = true :=
  ⟨exists_of_isForm, fun ⟨_, htext, hrandom⟩ => isForm_of_eq_text htext hrandom⟩

end Uuid

/-! ## Whole values -/

namespace Filter

variable {field : FieldRef} {operator : Operator} {check : Check} {value rest : String}

/-- The answer to a value that asks for a comparison with the identifier that `rest` names: a
malformed identifier is a problem under every rule, and only then does the operator matter. -/
structure Identifies (field : FieldRef) (operator : Operator) (check : Check)
    (value rest : String) : Prop where
  clauses (clauses : List Clause) :
    compileText .uuid field {} value = .ok clauses ↔
      Uuid.IsForm rest ∧ ∃ id : Uuid,
        (Operand.uuid id).toJson = .string (String.ofList (rest.toList.map Char.toLower)) ∧
          clauses = [.onField check field [.uuid id]]
  malformed (hform : ¬Uuid.IsForm rest) (rule : FilterRule) :
    compileText .uuid field rule value = .error (.invalidFilterValue value)
  forbidden (hform : Uuid.IsForm rest) (rule : FilterRule) (hrule : rule.allows operator = false) :
    compileText .uuid field rule value = .error (.unsupportedOperator operator)

theorem toJson_uuid_eq_iff {id : Uuid} :
    (Operand.uuid id).toJson = .string (String.ofList (rest.toList.map Char.toLower)) ↔
      rest.toList.map Char.toLower = id.text.toList := by
  rw [Operand.toJson, Json.string.injEq, ← String.toList_inj, String.toList_ofList, eq_comm]

/-- A malformed identifier is reported whatever the rule says; only then does the rule decide. -/
theorem identifies_of_named
    (hread : readUuid field value = named operator check field value rest) :
    Identifies field operator check value rest := by
  have hcompile : ∀ rule, compileText .uuid field rule value =
      (named operator check field value rest).bind (·.permit rule) := by
    intro rule
    rw [← hread]
    rfl
  cases hrandom : Uuid.readRandom? rest with
  | none =>
      have hform : ¬Uuid.IsForm rest := by
        rw [Uuid.isForm_iff]
        rintro ⟨id, hid⟩
        rw [Uuid.readRandom?_eq_some_iff.2 hid] at hrandom
        cases hrandom
      have herror : ∀ rule,
          compileText .uuid field rule value = .error (.invalidFilterValue value) := by
        intro rule
        rw [hcompile, named, hrandom]
        rfl
      exact ⟨fun clauses => by simp [herror, hform], fun _ => herror, fun h => absurd h hform⟩
  | some id =>
      have hid := Uuid.readRandom?_eq_some_iff.1 hrandom
      have hform : Uuid.IsForm rest := Uuid.isForm_iff.2 ⟨id, hid⟩
      have hpermit : ∀ rule, compileText .uuid field rule value =
          (Intent.test operator check field [.uuid id]).permit rule := by
        intro rule
        rw [hcompile, named, hrandom]
        rfl
      refine ⟨fun clauses => ?_, fun h => absurd hform h, fun _ rule hrule => ?_⟩
      · have hone : ∀ other : Uuid, rest.toList.map Char.toLower = other.text.toList ↔
            other = id := by
          intro other
          rw [← Uuid.readGroups?_eq_some_iff, Uuid.readGroups?_eq_some_iff.2 hid.1,
            Option.some.injEq, eq_comm]
        rw [hpermit, Intent.permit_eq_ok_iff]
        simp only [toJson_uuid_eq_iff, hone, exists_eq_left, hform, true_and]
        exact ⟨fun h => (Except.ok.inj h.2).symm, fun h => ⟨rfl, congrArg _ h.symm⟩⟩
      · rw [hpermit, Intent.permit, Intent.test, hrule]
        rfl

/-- What a value is compared with depends on whether it has a mark. -/
theorem identifies (hempty : value ≠ "") (habsent : value ≠ "!")
    (hset : ∀ payload, value ≠ "$in:" ++ payload ∧ value ≠ "$nin:" ++ payload) :
    (∀ rest, value = "!" ++ rest → Identifies field .notEquals .notEquals value rest) ∧
      ((∀ rest, value ≠ "!" ++ rest) → Identifies field .equals .equals value value) := by
  have hpresence : presence? field value = none := by
    rw [presence?, if_neg hempty, if_neg habsent]
  constructor
  · rintro rest rfl
    apply identifies_of_named
    rw [readUuid, hpresence, Membership.ofValue?_eq_none hset, String.toList_append]
    simp
  · intro hmark
    apply identifies_of_named
    rw [readUuid, hpresence, Membership.ofValue?_eq_none hset]
    dsimp only
    split
    next rest heq =>
      refine absurd (String.toList_inj.1 ?_) (hmark (String.ofList rest))
      rw [heq]
      simp
    next => rfl

/-- The written form of a random identifier has no mark and is read as it stands. -/
theorem compileText_text {id : Uuid} (hrandom : id.isRandom = true) :
    compileText .uuid field {} id.text = .ok [.onField .equals field [.uuid id]] := by
  have hchar : ∀ c ∈ id.text.toList, c.toLower = c ∧ c ≠ '!' ∧ c ≠ '$' := by
    intro c hmem
    rcases Uuid.mem_text hmem with rfl | ⟨digit, rfl⟩
    · decide
    · clear hmem
      revert digit
      decide
  have hlower : id.text.toList.map Char.toLower = id.text.toList :=
    (List.map_congr_left fun c hmem => (hchar c hmem).1).trans (List.map_id _)
  have hempty : id.text ≠ "" := (Uuid.not_blank_of_form hlower).1
  have hmark : ∀ rest, id.text ≠ "!" ++ rest := fun rest heq =>
    (hchar '!' (by rw [heq]; simp)).2.1 rfl
  have hset : ∀ payload, id.text ≠ "$in:" ++ payload ∧ id.text ≠ "$nin:" ++ payload := fun _ =>
    ⟨fun heq => (hchar '$' (by rw [heq]; simp)).2.2 rfl,
      fun heq => (hchar '$' (by rw [heq]; simp)).2.2 rfl⟩
  refine ((identifies hempty (hmark "") hset).2 hmark).clauses _ |>.2 ?_
  exact ⟨Uuid.isForm_iff.2 ⟨id, hlower, hrandom⟩, id, toJson_uuid_eq_iff.2 hlower, rfl⟩

/-- A value for an identifier that is no test for presence and no set makes one comparison, with
what stands behind its mark if it has one and with the value as it stands otherwise.  It does so for
the texts that have the form of a random identifier, place by place, and for no others; what it
compares with is shown as that text in lower case.  Every random identifier is reached by its own
written form. -/
theorem compileText_identifiers (field : FieldRef) :
    (∀ value, value ≠ "" → value ≠ "!" →
      (∀ payload, value ≠ "$in:" ++ payload ∧ value ≠ "$nin:" ++ payload) →
      (∀ rest, value = "!" ++ rest → Identifies field .notEquals .notEquals value rest) ∧
      ((∀ rest, value ≠ "!" ++ rest) → Identifies field .equals .equals value value)) ∧
    ∀ id : Uuid, id.isRandom = true →
      compileText .uuid field {} id.text = .ok [.onField .equals field [.uuid id]] :=
  ⟨fun _ hempty habsent hset => identifies hempty habsent hset, fun _ => compileText_text⟩

/-- An identifier in upper case that is not to be equal, and one with a digit that is none of the
digits of the variant. -/
theorem compileText_identifiers_owner :
    (∃ id : Uuid,
      (Operand.uuid id).toJson = .string "3e8a8a4c-6a0e-4d6b-9a4f-0d1c2b3a4e5f" ∧
      compileText .uuid ⟨.resource, "owner"⟩ {} "!3E8A8A4C-6A0E-4D6B-9A4F-0D1C2B3A4E5F" =
        .ok [.onField .notEquals ⟨.resource, "owner"⟩ [.uuid id]]) ∧
    compileText .uuid ⟨.resource, "owner"⟩ ⟨some []⟩ "3e8a8a4c-6a0e-4d6b-ca4f-0d1c2b3a4e5f" =
      .error (.invalidFilterValue "3e8a8a4c-6a0e-4d6b-ca4f-0d1c2b3a4e5f") := by
  constructor
  · obtain ⟨hnot, -⟩ := (compileText_identifiers ⟨.resource, "owner"⟩).1
      "!3E8A8A4C-6A0E-4D6B-9A4F-0D1C2B3A4E5F" (by decide) (by decide)
      (by simp [← String.toList_inj])
    obtain ⟨id, hid⟩ : ∃ id,
      Uuid.readRandom? "3E8A8A4C-6A0E-4D6B-9A4F-0D1C2B3A4E5F" = some id :=
      Option.isSome_iff_exists.1 (by decide +kernel)
    have hread := Uuid.readRandom?_eq_some_iff.1 hid
    refine ⟨id, ?_, ((hnot "3E8A8A4C-6A0E-4D6B-9A4F-0D1C2B3A4E5F" rfl).clauses _).2
      ⟨Uuid.isForm_iff.2 ⟨id, hread⟩, id, toJson_uuid_eq_iff.2 hread.1, rfl⟩⟩
    exact toJson_uuid_eq_iff.2 hread.1
  · have hform : ¬Uuid.IsForm "3e8a8a4c-6a0e-4d6b-ca4f-0d1c2b3a4e5f" := by
      rw [Uuid.isForm_iff]
      rintro ⟨id, hid⟩
      have hread := Uuid.readRandom?_eq_some_iff.2 hid
      have hnone : Uuid.readRandom? "3e8a8a4c-6a0e-4d6b-ca4f-0d1c2b3a4e5f" = none := by
        decide +kernel
      rw [hnone] at hread
      cases hread
    exact (((compileText_identifiers ⟨.resource, "owner"⟩).1 _ (by decide) (by decide)
      (by simp [← String.toList_inj])).2 (by simp [← String.toList_inj])).malformed hform _

end Filter

end RestQuery
