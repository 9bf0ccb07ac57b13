import RestQuery.Projection

/-!
# Fields and relations of projections

The fields of a projection are those that it starts with and those that tokens name, and so
are its relations.  A relation counts as asked for if a token that adds it names it.

Main statements: `Projection.mem_fields_read`, `Projection.nodup_read`,
`Projection.mem_relations_read` and `Projection.mem_named_read`.
-/

namespace RestQuery

/-- A name that the declared default fields add: an entry of its own that is not the word for every
full field, and not the removal of a name. -/
structure Capability.AddsByDefault (capability : Capability) (name : String) : Prop where
  listed : name ∈ capability.defaultFields
  notWord : name ≠ fullWord
  notRemoval : ∀ rest, name ≠ "-" ++ rest

theorem Capability.AddsByDefault.tokenName_eq {capability : Capability} {name : String}
    (hadds : capability.AddsByDefault name) : tokenName name = name := by
  have hnone : Text.rest? "-" name = none :=
    Option.eq_none_iff_forall_ne_some.2 fun rest hrest =>
      hadds.notRemoval rest (Text.rest?_eq_some_iff.1 hrest)
  rw [tokenName, hnone, Option.getD_none]

namespace Projection

variable {names : List String} {name : String}

@[simp]
theorem mem_add {other : String} : other ∈ add names name ↔ other ∈ names ∨ other = name := by
  rw [add]
  split
  next hmem =>
    rw [List.contains_iff_mem] at hmem
    constructor
    · exact .inl
    · rintro (hold | rfl)
      · exact hold
      · exact hmem
  next => rw [List.mem_append, List.mem_singleton]

@[simp]
theorem mem_addAll {more : List String} :
    name ∈ addAll names more ↔ name ∈ names ∨ name ∈ more := by
  induction more generalizing names with
  | nil => simp [addAll]
  | cons first rest ih =>
      rw [addAll, List.foldl_cons, ← addAll, ih, mem_add, List.mem_cons, or_assoc]

@[simp]
theorem mem_remove {other : String} : other ∈ remove names name ↔ other ∈ names ∧ other ≠ name := by
  simp [remove]

/-- Default fields are full fields and fields that the defaults add. -/
theorem mem_byDefault {capability : Capability} (hmem : name ∈ (byDefault capability).fields) :
    name ∈ capability.fullFields ∨ capability.AddsByDefault name := by
  have hfold : ∀ (tokens fields : List String),
      name ∈ tokens.foldl (applyDefault capability.fullFields) fields →
        name ∈ fields ∨ name ∈ capability.fullFields ∨
          name ∈ tokens ∧ name ≠ fullWord ∧ Text.rest? "-" name = none := by
    intro tokens
    induction tokens with
    | nil => exact fun fields hmem => .inl hmem
    | cons token rest ih =>
        intro fields hmem
        rw [List.foldl_cons] at hmem
        rcases ih _ hmem with happlied | hfull | ⟨hmem, hplain⟩
        · rw [applyDefault] at happlied
          split at happlied
          next =>
            rcases mem_addAll.1 happlied with hold | hfull
            · exact .inl hold
            · exact .inr (.inl hfull)
          next hword =>
            split at happlied
            next => exact .inl (mem_remove.1 happlied).1
            next hplain =>
              rcases mem_add.1 happlied with hold | rfl
              · exact .inl hold
              · exact .inr (.inr ⟨List.mem_cons_self, hword, hplain⟩)
        · exact .inr (.inl hfull)
        · exact .inr (.inr ⟨List.mem_cons_of_mem _ hmem, hplain⟩)
  rcases hfold _ _ hmem with hnone | hfull | ⟨hlisted, hword, hplain⟩
  · cases hnone
  · exact .inl hfull
  · refine .inr ⟨hlisted, hword, fun rest hrest => ?_⟩
    rw [Text.rest?_eq_some_iff.2 hrest] at hplain
    cases hplain

/-- Before any token is applied, there are only full fields and default ones. -/
theorem mem_fields_start {capability : Capability} {tokens : List String}
    (hmem : name ∈ (start capability tokens).1.fields) :
    name ∈ capability.fullFields ∨ name ∈ (byDefault capability).fields := by
  unfold start at hmem
  split at hmem
  · cases hmem
  split at hmem
  · exact .inl (by simpa [full] using hmem)
  split at hmem
  · exact .inr hmem
  · cases hmem

/-- A token adds only fields that are known at the level. -/
theorem Draft.mem_fields_apply {space : NameSpace} {draft : Draft} {token : String}
    (hmem : name ∈ (draft.apply space token).projection.fields) :
    name ∈ draft.projection.fields ∨ space.isField name = true := by
  rw [Draft.apply] at hmem
  split at hmem
  · exact .inl hmem
  dsimp only at hmem
  split at hmem
  next hfield =>
    dsimp only at hmem
    split at hmem
    · exact .inl (mem_remove.1 hmem).1
    · rcases mem_add.1 hmem with hold | rfl
      · exact .inl hold
      · exact .inr hfield
  next =>
    split at hmem
    · exact .inl hmem
    · exact .inl hmem

/-- The fields of a projection are those that it starts with and those that its tokens add. -/
theorem mem_fields_read {capability : Capability} {space : NameSpace} {value : String}
    (hmem : name ∈ (read capability space value).projection.fields) :
    name ∈ capability.fullFields ∨ name ∈ (byDefault capability).fields ∨
      space.isField name = true := by
  have hfold : ∀ (tokens : List String) (draft : Draft),
      name ∈ (tokens.foldl (Draft.apply space) draft).projection.fields →
        name ∈ draft.projection.fields ∨ space.isField name = true := by
    intro tokens
    induction tokens with
    | nil => exact fun draft hmem => .inl hmem
    | cons token rest ih =>
        intro draft hmem
        rcases ih _ hmem with happlied | hfield
        · exact Draft.mem_fields_apply happlied
        · exact .inr hfield
  rcases hfold _ _ hmem with hstart | hfield
  · rcases mem_fields_start hstart with hfull | hdefault
    · exact .inl hfull
    · exact .inr (.inl hdefault)
  · exact .inr (.inr hfield)

/-! ## Fields without repetition -/

theorem nodup_add (hnodup : names.Nodup) : (add names name).Nodup := by
  rw [add]
  split
  next => exact hnodup
  next hnew =>
    refine List.nodup_append.2 ⟨hnodup, List.pairwise_singleton _ _, fun other hold last hmem => ?_⟩
    rintro rfl
    exact hnew (List.contains_iff_mem.2 (List.mem_singleton.1 hmem ▸ hold))

theorem nodup_addAll {more : List String} (hnodup : names.Nodup) : (addAll names more).Nodup := by
  induction more generalizing names with
  | nil => exact hnodup
  | cons first rest ih =>
      rw [addAll, List.foldl_cons, ← addAll]
      exact ih (nodup_add hnodup)

theorem nodup_remove (hnodup : names.Nodup) : (remove names name).Nodup := hnodup.filter _

theorem nodup_byDefault (capability : Capability) : (byDefault capability).fields.Nodup := by
  have hfold : ∀ (tokens fields : List String), fields.Nodup →
      (tokens.foldl (applyDefault capability.fullFields) fields).Nodup := by
    intro tokens
    induction tokens with
    | nil => exact fun fields hnodup => hnodup
    | cons token rest ih =>
        intro fields hnodup
        rw [List.foldl_cons]
        apply ih
        rw [applyDefault]
        split
        · exact nodup_addAll hnodup
        split
        · exact nodup_remove hnodup
        · exact nodup_add hnodup
  exact hfold _ _ List.nodup_nil

theorem nodup_start (capability : Capability) (tokens : List String) :
    (start capability tokens).1.fields.Nodup := by
  unfold start
  split
  · exact List.nodup_nil
  split
  · exact nodup_addAll List.nodup_nil
  split
  · exact nodup_byDefault capability
  · exact List.nodup_nil

theorem Draft.nodup_apply {space : NameSpace} {draft : Draft} {token : String}
    (hnodup : draft.projection.fields.Nodup) :
    (draft.apply space token).projection.fields.Nodup := by
  rw [Draft.apply]
  split
  · exact hnodup
  dsimp only
  split
  · dsimp only
    split
    · exact nodup_remove hnodup
    · exact nodup_add hnodup
  · split <;> exact hnodup

/-- No field stands twice in a projection. -/
theorem nodup_read (capability : Capability) (space : NameSpace) (value : String) :
    (read capability space value).projection.fields.Nodup := by
  have hfold : ∀ (tokens : List String) (draft : Draft), draft.projection.fields.Nodup →
      (tokens.foldl (Draft.apply space) draft).projection.fields.Nodup := by
    intro tokens
    induction tokens with
    | nil => exact fun draft hnodup => hnodup
    | cons token rest ih => exact fun draft hnodup => ih _ (Draft.nodup_apply hnodup)
  exact hfold _ _ (nodup_start _ _)

/-! ## Relations -/

theorem mem_relations_byDefault {capability : Capability}
    (hmem : name ∈ (byDefault capability).relations) : name ∈ capability.defaultRelations := by
  simpa [byDefault] using hmem

theorem mem_relations_start {capability : Capability} {tokens : List String}
    (hmem : name ∈ (start capability tokens).1.relations) :
    name ∈ capability.defaultRelations := by
  unfold start at hmem
  split at hmem
  · cases hmem
  split at hmem
  · cases hmem
  split at hmem
  · exact mem_relations_byDefault hmem
  · cases hmem

/-- Whether a token adds a relation by name. -/
def addsRelation (space : NameSpace) (name token : String) : Bool :=
  !isWord token && readName token = (false, name) && !space.isField name &&
    space.isRelation name

theorem Draft.mem_relations_apply {space : NameSpace} {draft : Draft} {token : String}
    (hmem : name ∈ (draft.apply space token).projection.relations) :
    name ∈ draft.projection.relations ∨ space.isRelation name = true := by
  rw [Draft.apply] at hmem
  split at hmem
  · exact .inl hmem
  dsimp only at hmem
  split at hmem
  · exact .inl hmem
  split at hmem
  next hrelation =>
    dsimp only at hmem
    split at hmem
    · exact .inl (mem_remove.1 hmem).1
    · rcases mem_add.1 hmem with hold | rfl
      · exact .inl hold
      · exact .inr hrelation
  next => exact .inl hmem

/-- The relations of a projection are those that it starts with and those that its tokens
add. -/
theorem mem_relations_read {capability : Capability} {space : NameSpace} {value : String}
    (hmem : name ∈ (read capability space value).projection.relations) :
    name ∈ capability.defaultRelations ∨ space.isRelation name = true := by
  have hfold : ∀ (tokens : List String) (draft : Draft),
      name ∈ (tokens.foldl (Draft.apply space) draft).projection.relations →
        name ∈ draft.projection.relations ∨ space.isRelation name = true := by
    intro tokens
    induction tokens with
    | nil => exact fun draft hmem => .inl hmem
    | cons token rest ih =>
        intro draft hmem
        rcases ih _ hmem with happlied | hrelation
        · exact Draft.mem_relations_apply happlied
        · exact .inr hrelation
  rcases hfold _ _ hmem with hstart | hrelation
  · exact .inl (mem_relations_start hstart)
  · exact .inr hrelation

theorem Draft.mem_named_apply {space : NameSpace} {draft : Draft} {token : String} :
    name ∈ (draft.apply space token).named ↔
      name ∈ draft.named ∨ addsRelation space name token = true := by
  unfold Draft.apply addsRelation
  cases hword : isWord token with
  | true => simp
  | false =>
      obtain ⟨removal, other⟩ := readName token
      by_cases hother : name = other
      · subst hother
        cases removal <;> cases hfield : space.isField name <;>
          cases hrelation : space.isRelation name <;> simp [hfield, hrelation]
      · have hpair : (removal, other) ≠ (false, name) := by
          rintro ⟨⟩
          exact hother rfl
        cases removal <;> cases hfield : space.isField other <;>
          cases hrelation : space.isRelation other <;>
          simp [hother, hpair, hfield, hrelation]

/-- A relation counts as named if a token behind the first word adds it. -/
theorem mem_named_read {capability : Capability} {space : NameSpace} {value : String} :
    name ∈ (read capability space value).named ↔
      (start capability (tokens value)).2.any (addsRelation space name) = true := by
  have hfold : ∀ (tokens : List String) (draft : Draft),
      name ∈ (tokens.foldl (Draft.apply space) draft).named ↔
        name ∈ draft.named ∨ tokens.any (addsRelation space name) = true := by
    intro tokens
    induction tokens with
    | nil => simp
    | cons token rest ih =>
        intro draft
        rw [List.foldl_cons, ih, Draft.mem_named_apply, List.any_cons, Bool.or_eq_true, or_assoc]
  have hread := hfold (start capability (tokens value)).2
    { projection := (start capability (tokens value)).1 }
  rw [List.mem_nil_iff, false_or] at hread
  exact hread

end Projection

end RestQuery
