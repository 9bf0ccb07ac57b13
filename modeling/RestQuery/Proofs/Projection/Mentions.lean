import RestQuery.Proofs.Projection

/-!
# Names that tokens mention

The tokens of a value edit a projection one after the other.  What they come to can be said
without the order of the edits: a name is shown if the last token that mentions it adds it, or
if no token mentions it and the first word of the value stands for it.

Main statement: `Projection.settled_read`.
-/

namespace RestQuery.Projection

/-! ## Mentions -/

/-- What a token says about the name that it mentions. -/
inductive Mention where
  | addition
  | removal
  deriving DecidableEq, Repr

/-- What a token says about a name, if it mentions it.  The words mention no name. -/
def mention? (name token : String) : Option Mention :=
  if isWord token then none
  else if (readName token).2 = name then
    some (if (readName token).1 then .removal else .addition)
  else none

theorem mention?_of_isWord {name token : String} (hword : isWord token = true) :
    mention? name token = none := if_pos hword

/-- What tokens say last about a name. -/
def lastMention? (name : String) (tokens : List String) : Option Mention :=
  (tokens.filterMap (mention? name)).getLast?

/-- Whether a name is shown, by what is said last about it and by whether it was shown before. -/
def Shown (last : Option Mention) (before : Prop) : Prop :=
  last = some .addition ∨ last = none ∧ before

theorem shown_none {before : Prop} : Shown none before ↔ before := by simp [Shown]

/-- A later mention decides over an earlier one. -/
theorem shown_or {later earlier : Option Mention} {before : Prop} :
    Shown (later.or earlier) before ↔ Shown later (Shown earlier before) := by
  cases later with
  | none => simp [Shown]
  | some mention => cases mention <;> simp [Shown]

theorem lastMention?_cons (name token : String) (rest : List String) :
    lastMention? name (token :: rest) = (lastMention? name rest).or (mention? name token) := by
  unfold lastMention?
  rw [List.filterMap_cons]
  cases mention? name token with
  | none => rw [Option.or_none]
  | some mention =>
      rw [List.getLast?_cons]
      cases (rest.filterMap (mention? name)).getLast? <;> rfl

/-! ## Edits of one list -/

/-- What a token does to a list that shows only names known to it. -/
def edit (known : String → Bool) (names : List String) (token : String) : List String :=
  if isWord token then names
  else if known (readName token).2 then
    (if (readName token).1 then remove else add) names (readName token).2
  else names

section Edit

variable {known : String → Bool} {names tokens : List String} {name token : String}

/-- A token decides about the name that it mentions, and about no other. -/
theorem mem_edit_iff (hknown : known name = true) :
    name ∈ edit known names token ↔ Shown (mention? name token) (name ∈ names) := by
  unfold edit mention?
  cases hword : isWord token with
  | true => simp [Shown]
  | false =>
      obtain ⟨removal, other⟩ := readName token
      by_cases hother : other = name
      · subst hother
        cases removal <;> simp [hknown, Shown]
      · cases removal <;> cases known other <;> simp [hother, Ne.symm hother, Shown]

/-- A token changes nothing about names that are not known. -/
theorem mem_edit_of_unknown (hunknown : known name = false) :
    name ∈ edit known names token ↔ name ∈ names := by
  unfold edit
  split
  next => rfl
  next =>
    split
    next hknown =>
      have hother : name ≠ (readName token).2 := by
        rintro rfl
        rw [hknown] at hunknown
        cases hunknown
      split <;> simp [hother]
    next => rfl

theorem nodup_edit (hnodup : names.Nodup) : (edit known names token).Nodup := by
  unfold edit
  split
  next => exact hnodup
  next =>
    split
    next =>
      split
      · exact nodup_remove hnodup
      · exact nodup_add hnodup
    next => exact hnodup

/-- The last mention decides: each edit leaves to the later ones what they mention. -/
theorem mem_foldl_edit_iff (hknown : known name = true) :
    name ∈ tokens.foldl (edit known) names ↔
      Shown (lastMention? name tokens) (name ∈ names) := by
  induction tokens generalizing names with
  | nil => exact shown_none.symm
  | cons token rest ih =>
      rw [List.foldl_cons, ih, lastMention?_cons, shown_or, mem_edit_iff hknown]

theorem mem_foldl_edit_of_unknown (hunknown : known name = false) :
    name ∈ tokens.foldl (edit known) names ↔ name ∈ names := by
  induction tokens generalizing names with
  | nil => rfl
  | cons token rest ih => rw [List.foldl_cons, ih, mem_edit_of_unknown hunknown]

theorem nodup_foldl_edit (hnodup : names.Nodup) : (tokens.foldl (edit known) names).Nodup := by
  induction tokens generalizing names with
  | nil => exact hnodup
  | cons token rest ih => exact ih (nodup_edit hnodup)

end Edit

/-! ## Drafts -/

/-- Whether tokens mean a relation by a name.  Fields come first. -/
def meansRelation (space : NameSpace) (name : String) : Bool :=
  !space.isField name && space.isRelation name

/-- What is wrong with a token that is not the first word. -/
def problem? (space : NameSpace) (token : String) : Option Problem :=
  if isWord token then some (.misplacedWord token)
  else if space.isField (readName token).2 || space.isRelation (readName token).2 then none
  else some (.unknownField token)

variable {space : NameSpace} {draft : Draft}

/-- A token edits the fields and the relations apart from each other. -/
theorem Draft.apply_parts (token : String) :
    (draft.apply space token).projection =
        ⟨edit space.isField draft.projection.fields token,
          edit (meansRelation space) draft.projection.relations token⟩ ∧
      (draft.apply space token).problems =
        draft.problems ++ (problem? space token).toList := by
  unfold Draft.apply edit problem? meansRelation
  cases hword : isWord token with
  | true => simp
  | false =>
      obtain ⟨removal, name⟩ := readName token
      cases hfield : space.isField name <;> cases hrelation : space.isRelation name <;>
        cases removal <;> simp [hfield, hrelation]

theorem Draft.foldl_apply_parts (tokens : List String) :
    (tokens.foldl (Draft.apply space) draft).projection =
        ⟨tokens.foldl (edit space.isField) draft.projection.fields,
          tokens.foldl (edit (meansRelation space)) draft.projection.relations⟩ ∧
      (tokens.foldl (Draft.apply space) draft).problems =
        draft.problems ++ tokens.filterMap (problem? space) := by
  induction tokens generalizing draft with
  | nil => simp
  | cons token rest ih =>
      obtain ⟨hprojection, hproblems⟩ := @Draft.apply_parts space draft token
      rw [List.foldl_cons, ih.1, ih.2, hprojection, hproblems, List.foldl_cons, List.foldl_cons,
        List.append_assoc, List.filterMap_cons]
      cases problem? space token <;> simp

/-! ## What a value comes to -/

/-- The projection that the first word of tokens stands for. -/
def seed (capability : Capability) (tokens : List String) : Projection :=
  match tokens.head? with
  | none => {}
  | some token =>
    if token = fullWord then full capability
    else if token = defaultWord then byDefault capability
    else {}

/-- What is wrong with a token at a place.  Nothing is wrong with a word at the first. -/
def problemAt? (space : NameSpace) : String × Nat → Option Problem
  | (token, place) => if isWord token ∧ place = 0 then none else problem? space token

section Start

variable {capability : Capability} {tokens : List String}

theorem start_fst : (start capability tokens).1 = seed capability tokens := by
  cases tokens with
  | nil => rfl
  | cons token rest =>
      simp only [start, seed, List.head?_cons]
      split
      · rfl
      · split <;> rfl

/-- A word at the start is no edit. -/
theorem start_snd :
    (start capability tokens).2 =
      if tokens.head?.any isWord then tokens.tail else tokens := by
  cases tokens with
  | nil => rfl
  | cons token rest =>
      simp only [start, isWord, List.head?_cons, Option.any_some, List.tail_cons]
      split
      next hfull => simp [hfull]
      next hfull =>
        split
        next hdefault => simp [hdefault]
        next hdefault => simp [hfull, hdefault]

/-- The first word mentions no name. -/
theorem lastMention?_start (name : String) :
    lastMention? name (start capability tokens).2 = lastMention? name tokens := by
  rw [start_snd]
  cases tokens with
  | nil => rfl
  | cons token rest =>
      cases hword : isWord token with
      | false => simp [hword]
      | true => simp [hword, lastMention?_cons, mention?_of_isWord hword]

theorem nodup_relations_seed : (seed capability tokens).relations.Nodup := by
  unfold seed
  split
  · exact List.nodup_nil
  split
  · exact List.nodup_nil
  split
  · exact nodup_addAll List.nodup_nil
  · exact List.nodup_nil

theorem filterMap_problemAt?_of_pos {first : Nat} (hfirst : first ≠ 0) :
    (tokens.zipIdx first).filterMap (problemAt? space) = tokens.filterMap (problem? space) := by
  induction tokens generalizing first with
  | nil => rfl
  | cons token rest ih =>
      rw [List.zipIdx_cons, List.filterMap_cons, List.filterMap_cons, ih first.succ_ne_zero]
      simp [problemAt?, hfirst]

theorem filterMap_problem?_start :
    (start capability tokens).2.filterMap (problem? space) =
      tokens.zipIdx.filterMap (problemAt? space) := by
  rw [start_snd]
  cases tokens with
  | nil => rfl
  | cons token rest =>
      rw [List.zipIdx_cons, List.filterMap_cons, filterMap_problemAt?_of_pos Nat.one_ne_zero]
      cases hword : isWord token with
      | false => simp [hword, problemAt?, List.filterMap_cons]
      | true => simp [hword, problemAt?]

end Start

section Read

variable {capability : Capability} {value name : String}

theorem read_parts :
    (read capability space value).projection =
        ⟨(start capability (tokens value)).2.foldl (edit space.isField)
            (seed capability (tokens value)).fields,
          (start capability (tokens value)).2.foldl (edit (meansRelation space))
            (seed capability (tokens value)).relations⟩ ∧
      (read capability space value).problems =
        (tokens value).zipIdx.filterMap (problemAt? space) := by
  rw [← start_fst, ← filterMap_problem?_start]
  exact @Draft.foldl_apply_parts space { projection := (start capability (tokens value)).1 } _

theorem problems_read :
    (read capability space value).problems =
      (tokens value).zipIdx.filterMap (problemAt? space) := read_parts.2

/-- A known field is shown by its last mention, or by default. -/
theorem mem_fields_read_iff (hfield : space.isField name = true) :
    name ∈ (read capability space value).projection.fields ↔
      Shown (lastMention? name (tokens value))
        (name ∈ (seed capability (tokens value)).fields) := by
  rw [read_parts.1, mem_foldl_edit_iff hfield, lastMention?_start]

/-- A known relation that no field hides is shown by its last mention, or by default. -/
theorem mem_relations_read_iff (hrelation : meansRelation space name = true) :
    name ∈ (read capability space value).projection.relations ↔
      Shown (lastMention? name (tokens value))
        (name ∈ (seed capability (tokens value)).relations) := by
  rw [read_parts.1, mem_foldl_edit_iff hrelation, lastMention?_start]

end Read

/-- What tokens come to: the last mention of a name decides whether it is shown. -/
structure Settled (capability : Capability) (space : NameSpace) (tokens : List String)
    (draft : Draft) : Prop where
  field : ∀ name, space.isField name = true →
    (name ∈ draft.projection.fields ↔
      Shown (lastMention? name tokens) (name ∈ (seed capability tokens).fields))
  relation : ∀ name, meansRelation space name = true →
    (name ∈ draft.projection.relations ↔
      Shown (lastMention? name tokens) (name ∈ (seed capability tokens).relations))
  /-- Tokens change nothing about other names. -/
  otherFields : ∀ name, space.isField name = false →
    (name ∈ draft.projection.fields ↔ name ∈ (seed capability tokens).fields)
  otherRelations : ∀ name, meansRelation space name = false →
    (name ∈ draft.projection.relations ↔ name ∈ (seed capability tokens).relations)
  fieldsOnce : draft.projection.fields.Nodup
  relationsOnce : draft.projection.relations.Nodup
  problems : draft.problems = tokens.zipIdx.filterMap (problemAt? space)

/-- A value is read as what its tokens say last about each name. -/
theorem settled_read (capability : Capability) (space : NameSpace) (value : String) :
    Settled capability space (tokens value) (read capability space value) where
  field _ := mem_fields_read_iff
  relation _ := mem_relations_read_iff
  otherFields name hother := by rw [read_parts.1, mem_foldl_edit_of_unknown hother]
  otherRelations name hother := by rw [read_parts.1, mem_foldl_edit_of_unknown hother]
  fieldsOnce := nodup_read capability space value
  relationsOnce := by
    rw [read_parts.1]
    exact nodup_foldl_edit nodup_relations_seed
  problems := problems_read

end RestQuery.Projection
