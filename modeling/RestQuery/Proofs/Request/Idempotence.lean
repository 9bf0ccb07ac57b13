import RestQuery.Proofs.Request.Spellings
import RestQuery.Proofs.Text.Letters

/-!
# Normal forms of normal forms

A segment with a small letter is brought into snake case, and snake case stays as it is.  A segment
without one is lowered, and lowering may bring small letters about: then the normal form is read as
camel case when it is sent again.  That makes a difference exactly if it still has capitals, which
are those that are their own lower-case forms, and one of them stands where an underscore is wanted.
A third time nothing changes any more.

Main statement: `Key.normal_idempotent`.
-/

namespace RestQuery

namespace Text

variable {cs out form : List Char} {joined : Bool} {c : Char}

/-! ## Capitals that stay -/

/-- Whether a character is a capital and its own lower-case form. -/
def isLasting (c : Char) : Bool := isUpper c && lowerChar c == [c]

/-- Whether such a capital stands where snake case puts an underscore; `joined` says that none is
wanted at this point. -/
def wantsJoint (joined : Bool) : List Char → Bool
  | [] => false
  | c :: rest => (!joined && isLasting c) || wantsJoint (c == '_') rest

theorem isLasting_iff : isLasting c = true ↔ isUpper c = true ∧ lowerChar c = [c] := by
  rw [isLasting, Bool.and_eq_true, beq_iff_eq]

theorem isLasting_eq_false (hupper : isUpper c = false) : isLasting c = false := by
  rw [isLasting, hupper, Bool.false_and]

theorem joint_eq_false_of_isUpper (hupper : isUpper c = true) : (c == '_') = false := by
  rw [beq_eq_false_iff_ne]
  rintro rfl
  revert hupper
  decide +kernel

theorem joint_eq_false_of_lowerChar (hform : lowerChar c ≠ [c]) : (c == '_') = false := by
  rw [beq_eq_false_iff_ne]
  rintro rfl
  exact hform (by decide +kernel)

/-- Behind a settled character an underscore is wanted, whether or not one was before it. -/
theorem wantsJoint_cons (hc : IsSettled c) (joined : Bool) (rest : List Char) :
    wantsJoint joined (c :: rest) = wantsJoint false rest := by
  rw [wantsJoint, isLasting_eq_false hc.isUpper, beq_eq_false_iff_ne.2 hc.joint, Bool.and_false,
    Bool.false_or]

theorem wantsJoint_append (hform : ∀ d ∈ form, IsSettled d) (rest : List Char) :
    wantsJoint false (form ++ rest) = wantsJoint false rest := by
  induction form with
  | nil => rfl
  | cons d others ih =>
      obtain ⟨hd, hothers⟩ := List.forall_mem_cons.1 hform
      rw [List.cons_append, wantsJoint_cons hd, ih hothers]

theorem wantsJoint_form (hnil : form ≠ []) (hform : ∀ d ∈ form, IsSettled d) (joined : Bool)
    (rest : List Char) : wantsJoint joined (form ++ rest) = wantsJoint false rest := by
  cases form with
  | nil => exact absurd rfl hnil
  | cons d others =>
      obtain ⟨hd, hothers⟩ := List.forall_mem_cons.1 hform
      rw [List.cons_append, wantsJoint_cons hd, wantsJoint_append hothers]

/-- An underscore is wanted at the start, or between a character that is none and the capital behind
it. -/
theorem wantsJoint_iff : wantsJoint joined cs = true ↔
    (joined = false ∧ ∃ c ∈ cs.head?, isLasting c = true) ∨
      ∃ before capital, [before, capital] <:+: cs ∧ before ≠ '_' ∧ isLasting capital = true := by
  induction cs generalizing joined with
  | nil => simp [wantsJoint]
  | cons c rest ih =>
      have hpair : ∀ before capital, [before, capital] <+: c :: rest ↔
          before = c ∧ rest.head? = some capital := by
        intro before capital
        rw [List.cons_prefix_cons, List.head?_eq_some_iff]
        exact and_congr_right fun _ => ⟨fun ⟨tail, heq⟩ => ⟨tail, heq.symm⟩,
          fun ⟨tail, heq⟩ => ⟨tail, heq.symm⟩⟩
      rw [wantsJoint, Bool.or_eq_true, ih]
      simp only [List.infix_cons_iff, hpair, Bool.and_eq_true, Bool.not_eq_true', List.head?_cons,
        Option.mem_def, Option.some.injEq, exists_eq_left', beq_eq_false_iff_ne]
      constructor
      · rintro (hstart | ⟨hjoint, capital, hhead, hlasting⟩ | ⟨before, capital, hrest⟩)
        · exact .inl hstart
        · exact .inr ⟨c, capital, .inl ⟨rfl, hhead⟩, hjoint, hlasting⟩
        · exact .inr ⟨before, capital, .inr hrest.1, hrest.2⟩
      · rintro (hstart | ⟨before, capital, ⟨rfl, hhead⟩ | hinfix, hjoint, hlasting⟩)
        · exact .inl hstart
        · exact .inr (.inl ⟨hjoint, capital, hhead, hlasting⟩)
        · exact .inr (.inr ⟨before, capital, hinfix, hjoint, hlasting⟩)

/-! ## Snake case -/

/-- If all capitals stay, snake case leaves a text as it is unless an underscore is wanted. -/
theorem snakeFrom_eq_self_iff (hlasting : ∀ c ∈ cs, isUpper c = true → lowerChar c = [c]) :
    snakeFrom joined cs = cs ↔ wantsJoint joined cs = false := by
  induction cs generalizing joined with
  | nil => simp [snakeFrom, wantsJoint]
  | cons c rest ih =>
      obtain ⟨hc, hrest⟩ := List.forall_mem_cons.1 hlasting
      rw [snakeFrom, wantsJoint]
      cases hupper : isUpper c with
      | false =>
          rw [isLasting_eq_false hupper, Bool.and_false, Bool.false_or, ← ih hrest,
            if_neg Bool.false_ne_true, List.cons_inj_right]
      | true =>
          have hjoint := joint_eq_false_of_isUpper hupper
          rw [isLasting_iff.2 ⟨hupper, hc hupper⟩, hjoint, hc hupper, if_pos rfl, Bool.and_true]
          cases joined with
          | true => simpa using ih hrest
          | false =>
              -- The text would start with an underscore, and it starts with the capital.
              have hne : '_' ≠ c := (beq_eq_false_iff_ne.1 hjoint).symm
              simp [hne]

/-- Capitals that are left in snake case are their own lower-case forms. -/
theorem lowerChar_of_mem_snakeFrom (hmem : c ∈ snakeFrom joined cs) (hupper : isUpper c = true) :
    lowerChar c = [c] := by
  induction cs generalizing joined with
  | nil => cases hmem
  | cons d rest ih =>
      rw [snakeFrom] at hmem
      split at hmem
      next =>
        rw [List.mem_append, List.mem_append] at hmem
        rcases hmem with (hjoint | hform) | hrest
        · have hc : c = '_' := by
            split at hjoint
            · cases hjoint
            · exact List.mem_singleton.1 hjoint
          exact absurd hc (beq_eq_false_iff_ne.1 (joint_eq_false_of_isUpper hupper))
        · rcases lowerChar_cases d with hself | ⟨hsettled, -⟩
          · rw [hself] at hform
            exact List.mem_singleton.1 hform ▸ hself
          · rw [(hsettled c hform).isUpper] at hupper
            cases hupper
        · exact ih hrest
      next hd =>
        rcases List.mem_cons.1 hmem with rfl | hrest
        · exact absurd hupper hd
        · exact ih hrest

/-- Snake case leaves no capital that wants another underscore. -/
theorem wantsJoint_snakeFrom : wantsJoint joined (snakeFrom joined cs) = false := by
  induction cs generalizing joined with
  | nil => rfl
  | cons c rest ih =>
      rw [snakeFrom]
      cases hupper : isUpper c with
      | false =>
          rw [if_neg Bool.false_ne_true, wantsJoint, isLasting_eq_false hupper, ih, Bool.and_false,
            Bool.false_or]
      | true =>
          -- An underscore is set before the form unless there is one or the text starts here.
          have hbehind : wantsJoint true (lowerChar c ++ snakeFrom false rest) = false := by
            rcases lowerChar_cases c with hself | ⟨hsettled, -⟩
            · rw [hself, List.singleton_append, wantsJoint, joint_eq_false_of_isUpper hupper, ih]
              rfl
            · rw [wantsJoint_form (lowerChar_ne_nil c) hsettled, ih]
          rw [if_pos rfl, List.append_assoc]
          cases joined with
          | true => exact hbehind
          | false =>
              have hjoint : isLasting '_' = false := by decide +kernel
              rw [if_neg Bool.false_ne_true, List.singleton_append, wantsJoint, hjoint]
              exact hbehind

/-- Snake case stays as it is. -/
theorem snakeFrom_snakeFrom (joined : Bool) (cs : List Char) :
    snakeFrom joined (snakeFrom joined cs) = snakeFrom joined cs :=
  (snakeFrom_eq_self_iff fun _ => lowerChar_of_mem_snakeFrom).2 wantsJoint_snakeFrom

theorem mem_snakeFrom (hmem : c ∈ cs) (hupper : isUpper c = false) : c ∈ snakeFrom joined cs := by
  induction cs generalizing joined with
  | nil => cases hmem
  | cons d rest ih =>
      rw [snakeFrom]
      rcases List.mem_cons.1 hmem with rfl | hrest
      · rw [hupper]
        exact List.mem_cons_self
      · split
        · exact List.mem_append_right _ (ih hrest)
        · exact List.mem_cons_of_mem _ (ih hrest)

/-- Snake case keeps small letters. -/
theorem any_isLower_snakeFrom (hlower : cs.any isLower = true) :
    (snakeFrom joined cs).any isLower = true := by
  obtain ⟨c, hmem, hc⟩ := List.any_eq_true.1 hlower
  exact List.any_eq_true.2 ⟨c, mem_snakeFrom hmem (isUpper_of_isLower hc), hc⟩

/-! ## Lower case -/

/-- What lowering puts in the place of a character. -/
def formAfter (before : List Char) (c : Char) (after : List Char) : List Char :=
  if c = 'Σ' then [if endsWord before after then 'ς' else 'σ'] else lowerChar c

theorem lowerAfter_cons (before : List Char) (c : Char) (after : List Char) :
    lowerAfter before (c :: after) = formAfter before c after ++ lowerAfter (c :: before) after :=
  rfl

/-- A character stays if it is its own lower-case form; else a small letter comes in its place. -/
theorem formAfter_cases (before : List Char) (c : Char) (after : List Char) :
    lowerChar c = [c] ∧ formAfter before c after = [c] ∨
      lowerChar c ≠ [c] ∧ (∀ d ∈ formAfter before c after, IsSettled d) ∧
        ∃ d ∈ formAfter before c after, isLower d = true := by
  rw [formAfter]
  split
  next hsigma =>
    subst hsigma
    refine .inr ⟨by decide +kernel, ?_⟩
    have hlower : isLower (if endsWord before after then 'ς' else 'σ') = true := by
      split <;> decide +kernel
    exact ⟨List.forall_mem_singleton.2 (isSettled_of_isLower hlower), _, List.mem_singleton_self _,
      hlower⟩
  next =>
    by_cases hself : lowerChar c = [c]
    · exact .inl ⟨hself, hself⟩
    · exact .inr ⟨hself, (lowerChar_cases c).resolve_left hself⟩

/-- Lowering leaves the places as they are at which underscores are wanted. -/
theorem wantsJoint_lowerAfter (before : List Char) :
    wantsJoint joined (lowerAfter before cs) = wantsJoint joined cs := by
  induction cs generalizing joined before with
  | nil => rfl
  | cons c rest ih =>
      rw [lowerAfter_cons]
      rcases formAfter_cases before c rest with ⟨-, hform⟩ | ⟨hother, hsettled, d, hd, -⟩
      · rw [hform, List.singleton_append, wantsJoint, wantsJoint, ih]
      · have hnone : isLasting c = false :=
          Bool.eq_false_iff.2 fun hlasting => hother (isLasting_iff.1 hlasting).2
        rw [wantsJoint_form (List.ne_nil_of_mem hd) hsettled, ih, wantsJoint, hnone,
          joint_eq_false_of_lowerChar hother, Bool.and_false, Bool.false_or]

/-- Capitals that are left in lower case are their own lower-case forms. -/
theorem lowerChar_of_mem_lowerAfter {before : List Char} (hmem : c ∈ lowerAfter before cs)
    (hupper : isUpper c = true) : lowerChar c = [c] := by
  induction cs generalizing before with
  | nil => cases hmem
  | cons d rest ih =>
      rw [lowerAfter_cons, List.mem_append] at hmem
      rcases hmem with hform | hrest
      · rcases formAfter_cases before d rest with ⟨hself, hsame⟩ | ⟨-, hsettled, -⟩
        · rw [hsame] at hform
          exact List.mem_singleton.1 hform ▸ hself
        · rw [(hsettled c hform).isUpper] at hupper
          cases hupper
      · exact ih hrest

/-- Characters that are their own lower-case forms stay. -/
theorem lowerAfter_eq_self {before : List Char} (hself : ∀ c ∈ cs, lowerChar c = [c]) :
    lowerAfter before cs = cs := by
  induction cs generalizing before with
  | nil => rfl
  | cons c rest ih =>
      obtain ⟨hc, hrest⟩ := List.forall_mem_cons.1 hself
      rcases formAfter_cases before c rest with ⟨-, hform⟩ | ⟨hother, -⟩
      · rw [lowerAfter_cons, hform, ih hrest, List.singleton_append]
      · exact absurd hc hother

/-- Lowering brings a small letter about if it changes a character. -/
theorem any_isLower_lowerAfter {before : List Char} (hmem : c ∈ cs) (hother : lowerChar c ≠ [c]) :
    (lowerAfter before cs).any isLower = true := by
  induction cs generalizing before with
  | nil => cases hmem
  | cons d rest ih =>
      rw [lowerAfter_cons, List.any_append, Bool.or_eq_true]
      rcases List.mem_cons.1 hmem with rfl | hrest
      · rcases formAfter_cases before c rest with ⟨hself, -⟩ | ⟨-, -, small, hsmall, hlower⟩
        · exact absurd hself hother
        · exact .inl (List.any_eq_true.2 ⟨small, hsmall, hlower⟩)
      · exact .inr (ih hrest)

/-! ## Blanks at the ends -/

/-- A text in another form: each character stays or gives way to some that are no blanks. -/
inductive Reforms : List Char → List Char → Prop
  | nil : Reforms [] []
  | cons {d : Char} {inner rest outer : List Char}
      (hinner : inner = [d] ∨ inner ≠ [] ∧ ∀ e ∈ inner, isBlank e = false)
      (hrest : Reforms rest outer) : Reforms (d :: rest) (inner ++ outer)

namespace Reforms

theorem eq_nil_iff (hreforms : Reforms cs out) : out = [] ↔ cs = [] := by
  cases hreforms with
  | nil => exact Iff.rfl
  | cons hform hrest => rcases hform with rfl | ⟨hnil, -⟩ <;> simp_all

theorem isBlank_form (hform : form = [c] ∨ form ≠ [] ∧ ∀ d ∈ form, isBlank d = false)
    (hc : isBlank c = false) : ∀ d ∈ form, isBlank d = false := by
  rcases hform with rfl | ⟨-, hblank⟩
  · exact List.forall_mem_singleton.2 hc
  · exact hblank

/-- A text that starts with no blank does so in another form. -/
theorem isBlank_head? (hreforms : Reforms cs out) (hhead : ∀ c ∈ cs.head?, isBlank c = false) :
    ∀ d ∈ out.head?, isBlank d = false := by
  cases hreforms with
  | nil => exact hhead
  | @cons c form cs out hform hrest =>
      have hblank := isBlank_form hform (hhead c rfl)
      have hnil : form ≠ [] := by
        rcases hform with rfl | ⟨hnil, -⟩
        · exact List.cons_ne_nil c []
        · exact hnil
      intro d hd
      rw [List.head?_append_of_ne_nil _ hnil] at hd
      exact hblank d (List.mem_of_mem_head? hd)

theorem isBlank_getLast? (hreforms : Reforms cs out)
    (hlast : ∀ c ∈ cs.getLast?, isBlank c = false) : ∀ d ∈ out.getLast?, isBlank d = false := by
  induction hreforms with
  | nil => exact hlast
  | @cons c form cs out hform hrest ih =>
      intro d hd
      by_cases hnil : cs = []
      · subst hnil
        rw [hrest.eq_nil_iff.2 rfl, List.append_nil] at hd
        exact isBlank_form hform (hlast c rfl) d (List.mem_of_getLast? hd)
      · have hout : out ≠ [] := fun hout => hnil (hrest.eq_nil_iff.1 hout)
        rw [List.getLast?_append_of_ne_nil _ hout] at hd
        refine ih (fun last hmem => hlast last ?_) d hd
        rwa [List.getLast?_cons_of_ne_nil hnil]

/-- A text without blanks at its ends has none in another form. -/
theorem trimChars_eq (hreforms : Reforms cs out) (hcs : trimChars cs = cs) :
    trimChars out = out := by
  obtain ⟨hhead, hlast⟩ := trimChars_eq_self_iff.1 hcs
  exact trimChars_eq_self_iff.2 ⟨hreforms.isBlank_head? hhead, hreforms.isBlank_getLast? hlast⟩

end Reforms

theorem reforms_lowerAfter (before cs : List Char) : Reforms cs (lowerAfter before cs) := by
  induction cs generalizing before with
  | nil => exact .nil
  | cons c rest ih =>
      rw [lowerAfter_cons]
      refine .cons ?_ (ih (c :: before))
      rcases formAfter_cases before c rest with ⟨-, hform⟩ | ⟨-, hsettled, d, hd, -⟩
      · exact .inl hform
      · exact .inr ⟨List.ne_nil_of_mem hd, fun d hd => (hsettled d hd).isBlank⟩

theorem reforms_snakeFrom (joined : Bool) (cs : List Char) : Reforms cs (snakeFrom joined cs) := by
  induction cs generalizing joined with
  | nil => exact .nil
  | cons c rest ih =>
      rw [snakeFrom]
      split
      next hupper =>
        have hform : ∀ d ∈ lowerChar c, isBlank d = false := by
          rcases lowerChar_cases c with hself | ⟨hsettled, -⟩
          · rw [hself, List.forall_mem_singleton]
            exact isBlank_of_isUpper hupper
          · exact fun d hd => (hsettled d hd).isBlank
        have hjoint : ∀ d ∈ if joined then [] else ['_'], isBlank d = false := by
          have hmark : isBlank '_' = false := by decide +kernel
          split
          · exact List.forall_mem_nil _
          · exact List.forall_mem_singleton.2 hmark
        exact .cons (.inr ⟨by simp [lowerChar_ne_nil], List.forall_mem_append.2 ⟨hjoint, hform⟩⟩)
          (ih false)
      next =>
        rw [← List.singleton_append]
        exact .cons (.inl rfl) (ih (c == '_'))

end Text

namespace Key

open Text

variable {cs : List Char} {segment : String}

/-! ## Segments -/

/-- The normal form of a segment without blanks at its ends. -/
def normalChars (cs : List Char) : List Char :=
  if cs.any isLower then snakeFrom true cs else lowerAfter [] cs

theorem toList_normalSegment (segment : String) :
    (normalSegment segment).toList = normalChars (trim segment).toList := by
  rw [normalSegment, normalChars]
  split
  · rw [toList_snake]
  · rw [toList_lower]

theorem trimChars_normalChars (hcs : trimChars cs = cs) :
    trimChars (normalChars cs) = normalChars cs := by
  rw [normalChars]
  split
  · exact (reforms_snakeFrom true cs).trimChars_eq hcs
  · exact (reforms_lowerAfter [] cs).trimChars_eq hcs

theorem toList_normalSegment_again (segment : String) :
    (normalSegment (normalSegment segment)).toList =
      normalChars (normalSegment segment).toList := by
  have hbare : trimChars (trim segment).toList = (trim segment).toList := by simp
  rw [toList_normalSegment, toList_trim, toList_normalSegment, trimChars_normalChars hbare]

/-- A segment with a small letter has one normal form. -/
theorem normalChars_of_isLower (hlower : cs.any isLower = true) :
    normalChars (normalChars cs) = normalChars cs := by
  have hsnake : normalChars cs = snakeFrom true cs := if_pos hlower
  rw [hsnake, normalChars, if_pos (any_isLower_snakeFrom hlower), snakeFrom_snakeFrom]

/-- A segment without small letters stays as it is or gets some. -/
theorem normalChars_cases (hlower : cs.any isLower = false) :
    (∀ c ∈ cs, lowerChar c = [c]) ∧ normalChars cs = cs ∨
      (∃ c ∈ cs, lowerChar c ≠ [c]) ∧ normalChars cs = lowerAfter [] cs ∧
        (normalChars cs).any isLower = true := by
  have hlowered : normalChars cs = lowerAfter [] cs := if_neg (Bool.eq_false_iff.1 hlower)
  by_cases hself : ∀ c ∈ cs, lowerChar c = [c]
  · exact .inl ⟨hself, hlowered.trans (lowerAfter_eq_self hself)⟩
  · push Not at hself
    obtain ⟨c, hmem, hother⟩ := hself
    refine .inr ⟨⟨c, hmem, hother⟩, hlowered, ?_⟩
    rw [hlowered]
    exact any_isLower_lowerAfter hmem hother

/-- A segment without small letters is changed again if it has been changed and a capital that has
stayed wants an underscore. -/
theorem normalChars_again_iff (hlower : cs.any isLower = false) :
    normalChars (normalChars cs) = normalChars cs ↔
      ¬((∃ c ∈ cs, lowerChar c ≠ [c]) ∧ wantsJoint true cs = true) := by
  rcases normalChars_cases hlower with ⟨hself, hsame⟩ | ⟨hchanges, hlowered, hsmall⟩
  · rw [hsame]
    exact iff_of_true hsame fun ⟨⟨c, hmem, hother⟩, _⟩ => hother (hself c hmem)
  · -- It is lowered the first time and has small letters the second, so snake case decides.
    rw [normalChars, if_pos hsmall, hlowered,
      snakeFrom_eq_self_iff fun _ => lowerChar_of_mem_lowerAfter, wantsJoint_lowerAfter,
      and_iff_right hchanges, Bool.not_eq_true]

/-- A segment has at most two normal forms. -/
theorem normalChars_thrice (cs : List Char) :
    normalChars (normalChars (normalChars cs)) = normalChars (normalChars cs) := by
  cases hlower : cs.any isLower with
  | true => rw [normalChars_of_isLower hlower, normalChars_of_isLower hlower]
  | false =>
      rcases normalChars_cases hlower with ⟨-, hsame⟩ | ⟨-, -, hsmall⟩
      · rw [hsame, hsame, hsame]
      · exact normalChars_of_isLower hsmall

/-- A segment with two normal forms.  It has no small letter, but a character that another one is
the lower-case form of; and a capital in it that is its own lower-case form follows a character that
is no underscore. -/
structure Wavers (segment : String) : Prop where
  unlowered : ∀ c ∈ (trim segment).toList, isLower c = false
  changes : ∃ c ∈ (trim segment).toList, lowerChar c ≠ [c]
  capital : ∃ before capital, [before, capital] <:+: (trim segment).toList ∧ before ≠ '_' ∧
    isUpper capital = true ∧ lowerChar capital = [capital]

theorem wavers_iff : Wavers segment ↔ (trim segment).toList.any isLower = false ∧
    (∃ c ∈ (trim segment).toList, lowerChar c ≠ [c]) ∧
      wantsJoint true (trim segment).toList = true := by
  rw [wantsJoint_iff, List.any_eq_false]
  simp only [isLasting_iff, Bool.not_eq_true, Bool.true_eq_false, false_and, false_or]
  exact ⟨fun ⟨hlower, hchanges, hcapital⟩ => ⟨hlower, hchanges, hcapital⟩,
    fun ⟨hlower, hchanges, hcapital⟩ => ⟨hlower, hchanges, hcapital⟩⟩

/-- The normal form of a segment is one for good unless it wavers. -/
theorem normalSegment_again_iff (segment : String) :
    normalSegment (normalSegment segment) = normalSegment segment ↔ ¬Wavers segment := by
  rw [← String.toList_inj, toList_normalSegment_again, toList_normalSegment, wavers_iff]
  cases hlower : (trim segment).toList.any isLower with
  | true => exact iff_of_true (normalChars_of_isLower hlower) fun h => Bool.noConfusion h.1
  | false => rw [normalChars_again_iff hlower, and_iff_right rfl]

theorem normalSegment_thrice (segment : String) :
    normalSegment (normalSegment (normalSegment segment)) =
      normalSegment (normalSegment segment) := by
  rw [← String.toList_inj, toList_normalSegment_again, toList_normalSegment_again,
    toList_normalSegment, normalChars_thrice]

/-- Every capital of ASCII has another lower-case form. -/
theorem not_wavers_of_ascii (hascii : ∀ c ∈ segment.toList, c.toNat < 128) : ¬Wavers segment := by
  rintro ⟨-, -, before, capital, hinfix, -, hupper, hself⟩
  have hmem : capital ∈ (trim segment).toList := hinfix.subset (by simp)
  rw [toList_trim] at hmem
  have hlt := hascii capital (mem_of_mem_trimChars hmem)
  have hchanges := of_ascii (p := fun c => c.isUpper = true → c.toLower ≠ c) (by decide) hlt
  rw [isUpper_ascii hlt] at hupper
  rw [lowerChar_ascii hlt] at hself
  exact hchanges hupper (List.singleton_injective hself)

/-! ## Keys -/

/-- Keys have one normal form exactly if their segments have, one by one. -/
theorem normal_inj {key other : String} :
    normal key = normal other ↔ normalSegments key = normalSegments other := by
  constructor
  · intro hnormal
    rw [← segments_normal, hnormal, segments_normal]
  · intro hsegments
    rw [normal, hsegments, normal]

theorem normalSegments_normal (key : String) :
    normalSegments (normal key) = (normalSegments key).map normalSegment := by
  rw [normalSegments, segments_normal]

/-- The normal form of a key is one for good unless a segment wavers. -/
theorem normal_again_iff (key : String) :
    normal (normal key) = normal key ↔ ∀ segment ∈ segments key, ¬Wavers segment := by
  rw [normal_inj, normalSegments_normal, normalSegments, List.map_map, List.map_inj_left]
  refine forall₂_congr fun segment _ => ?_
  rw [Function.comp_apply, normalSegment_again_iff]

/-- The second normal form of a key is the last one. -/
theorem normal_thrice (key : String) : normal (normal (normal key)) = normal (normal key) := by
  have htwice : (normalSegment ∘ normalSegment) ∘ normalSegment =
      normalSegment ∘ normalSegment := by
    funext segment
    rw [Function.comp_apply, Function.comp_apply, Function.comp_apply, normalSegment_thrice]
  rw [normal_inj, normalSegments_normal, normalSegments_normal, normalSegments, List.map_map,
    List.map_map, htwice, ← List.map_map]

/-- The normal form of a segment, and that of a key, are normal forms of themselves exactly if the
segment, or every segment of the key, does not waver; none of ASCII does.  A third time nothing
changes.  A key in normal form then goes where the key goes. -/
theorem normal_idempotent :
    (∀ segment, normalSegment (normalSegment segment) = normalSegment segment ↔ ¬Wavers segment) ∧
    (∀ segment, normalSegment (normalSegment (normalSegment segment)) =
      normalSegment (normalSegment segment)) ∧
    (∀ key, normal (normal key) = normal key ↔ ∀ segment ∈ segments key, ¬Wavers segment) ∧
    (∀ key, normal (normal (normal key)) = normal (normal key)) ∧
    (∀ segment : String, (∀ c ∈ segment.toList, c.toNat < 128) → ¬Wavers segment) ∧
    ∀ key, (∀ segment ∈ segments key, ¬Wavers segment) →
      ∀ (keys : Keys) (trace : String) (value : Json),
        (keys.route trace (normal key) value).bare = (keys.route trace key value).bare :=
  ⟨normalSegment_again_iff, normalSegment_thrice, normal_again_iff, normal_thrice,
    fun _ => not_wavers_of_ascii, fun key hsteady _ _ value =>
      Keys.bare_route ((normal_again_iff key).2 hsteady) value⟩

/-- A path to a field of facilities. -/
theorem normal_idempotent_hours :
    normal (normal "Facilities.openingHours") = normal "Facilities.openingHours" ∧
    ((⟨[], ["facilities"], [], false⟩ : Keys).route "hut" (normal "Facilities.openingHours")
        (.string "9")).bare =
      ((⟨[], ["facilities"], [], false⟩ : Keys).route "hut" "Facilities.openingHours"
        (.string "9")).bare := by
  obtain ⟨-, -, hagain, -, hascii, hroute⟩ := normal_idempotent
  have hsteady : ∀ segment ∈ segments "Facilities.openingHours", ¬Wavers segment := by
    have hsegments : segments "Facilities.openingHours" = ["Facilities", "openingHours"] := by
      decide +kernel
    rw [hsegments, List.forall_mem_cons, List.forall_mem_singleton]
    exact ⟨hascii "Facilities" (by simp), hascii "openingHours" (by simp)⟩
  exact ⟨(hagain _).2 hsteady, hroute _ hsteady _ _ _⟩

/-- The double-struck capital has no other lower-case form.  A key with it behind another capital
finds a filter that its normal form does not find. -/
theorem normal_again_doubleStruck :
    normalSegment (normalSegment "Aℂ") ≠ normalSegment "Aℂ" ∧
    normal (normal "Aℂ") ≠ normal "Aℂ" ∧
    ((⟨["aℂ"], [], [], false⟩ : Keys).route "hut" "Aℂ" (.string "9")).filter?.isSome = true ∧
    ((⟨["aℂ"], [], [], false⟩ : Keys).route "hut" (normal "Aℂ") (.string "9")).filter? = none := by
  decide +kernel

end Key

end RestQuery
