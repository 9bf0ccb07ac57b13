import Mathlib.Data.List.Forall2

/-!
# Outcomes

Catalogs, plans and statements are computed in steps of which the first fault is
the outcome.  These lemmas take a successful computation apart into its steps, and
put it together again.
-/

namespace RestQuery

variable {ε : Type u} {α β : Type v}

/-- Two steps succeed exactly if the first does and the second does with its value. -/
theorem bind_eq_ok_iff {first : Except ε α} {next : α → Except ε β} {result : β} :
    first >>= next = .ok result ↔
      ∃ value, first = .ok value ∧ next value = .ok result := by
  cases first with
  | error fault => simp [bind, Except.bind]
  | ok value => simp [bind, Except.bind]

@[simp]
theorem pure_eq_ok_iff {value result : α} :
    (pure value : Except ε α) = .ok result ↔ value = result := by
  simp [pure, Except.pure]

theorem mapError_eq_ok_iff {ε' : Type u} {f : ε → ε'} {outcome : Except ε α} {result : α} :
    outcome.mapError f = .ok result ↔ outcome = .ok result := by
  cases outcome <;> simp [Except.mapError]

theorem toOption_eq_some_iff {outcome : Except ε α} {result : α} :
    outcome.toOption = some result ↔ outcome = .ok result := by
  cases outcome <;> simp [Except.toOption]

theorem eq_ok_of_isOk {outcome : Except ε α} (other : α) (hok : outcome.isOk = true) :
    outcome = .ok (outcome.toOption.getD other) := by
  cases outcome with
  | error fault => cases hok
  | ok value => rfl

theorem exists_ok_of_isOk {outcome : Except ε α} (hok : outcome.isOk = true) :
    ∃ value, outcome = .ok value := by
  cases outcome with
  | error fault => cases hok
  | ok value => exact ⟨value, rfl⟩

def failure? : Except ε α → Option ε
  | .ok _ => none
  | .error error => some error

theorem failure?_eq_some_iff {outcome : Except ε α} {error : ε} :
    failure? outcome = some error ↔ outcome = .error error := by
  cases outcome <;> simp [failure?]

theorem failure?_map (f : α → β) (outcome : Except ε α) :
    failure? (outcome.map f) = failure? outcome := by
  cases outcome <;> rfl

/-- A pass over a list succeeds when each step does. -/
theorem mapM_eq_ok_iff {step : α → Except ε β} {items : List α} {results : List β} :
    items.mapM step = .ok results ↔
      List.Forall₂ (fun item result => step item = .ok result) items results := by
  induction items generalizing results with
  | nil =>
      rw [List.mapM_nil, pure_eq_ok_iff, List.forall₂_nil_left_iff]
      exact eq_comm
  | cons item rest ih =>
      rw [List.mapM_cons, List.forall₂_cons_left_iff, bind_eq_ok_iff]
      constructor
      · rintro ⟨value, hvalue, hrest⟩
        obtain ⟨values, hvalues, heq⟩ := bind_eq_ok_iff.1 hrest
        exact ⟨value, values, hvalue, ih.1 hvalues, (pure_eq_ok_iff.1 heq).symm⟩
      · rintro ⟨value, values, hvalue, hvalues, rfl⟩
        refine ⟨value, hvalue, bind_eq_ok_iff.2 ⟨values, ih.2 hvalues, ?_⟩⟩
        exact pure_eq_ok_iff.2 rfl

/-- A list has results exactly if each of its items has one. -/
theorem mapM_eq_some_iff {step : α → Option β} {items : List α} {results : List β} :
    items.mapM step = some results ↔
      List.Forall₂ (fun item result => step item = some result) items results := by
  induction items generalizing results with
  | nil =>
      rw [List.mapM_nil, List.forall₂_nil_left_iff]
      exact Option.some_inj.trans eq_comm
  | cons item rest ih =>
      rw [List.mapM_cons, List.forall₂_cons_left_iff]
      simp only [bind, pure, Option.bind_eq_some_iff, Option.some_inj, ih]
      constructor
      · rintro ⟨value, hvalue, values, hvalues, rfl⟩
        exact ⟨value, values, hvalue, hvalues, rfl⟩
      · rintro ⟨value, values, hvalue, hvalues, rfl⟩
        exact ⟨value, hvalue, values, hvalues, rfl⟩

/-- A pass undoes what was done to each item if each step does. -/
theorem mapM_map_eq_some {step : β → Option α} {change : α → β}
    (hstep : ∀ item, step (change item) = some item) (items : List α) :
    (items.map change).mapM step = some items := by
  rw [mapM_eq_some_iff, List.forall₂_map_left_iff, List.forall₂_same]
  exact fun item _ => hstep item

/-- What a step does for its item, and later steps keep, is there at the end of a pass that
nothing went wrong in. -/
theorem holds_foldl {σ : Type u} {step : σ → α → σ} (valid : σ → Prop) (holds : σ → α → Prop)
    (hvalid : ∀ state item, valid (step state item) → valid state)
    (hnew : ∀ state item, valid (step state item) → holds (step state item) item)
    (hkept : ∀ state item other, valid (step state item) → holds state other →
      holds (step state item) other)
    {items : List α} {state : σ} (hend : valid (items.foldl step state)) :
    valid state ∧ (∀ item, holds state item → holds (items.foldl step state) item) ∧
      ∀ item ∈ items, holds (items.foldl step state) item := by
  induction items generalizing state with
  | nil => exact ⟨hend, fun _ hold => hold, nofun⟩
  | cons item rest ih =>
      obtain ⟨hstep, hlater, hrest⟩ := ih hend
      refine ⟨hvalid state item hstep, fun other hold => ?_, fun other hmem => ?_⟩
      · exact hlater other (hkept state item other hstep hold)
      · rcases List.mem_cons.1 hmem with rfl | hmem
        · exact hlater other (hnew state other hstep)
        · exact hrest other hmem

/-! ## Two outcomes that look alike -/

variable {γ δ : Type v}

theorem map_bind_congr {first second : Except ε α} {look : α → γ}
    {next other : α → Except ε β} {result : β → δ} (hfirst : first.map look = second.map look)
    (hnext : ∀ left right, look left = look right →
      (next left).map result = (other right).map result) :
    (first >>= next).map result = (second >>= other).map result := by
  cases first with
  | error fault =>
      cases second with
      | error otherFault => exact congrArg Except.error (Except.error.inj hfirst)
      | ok right => cases hfirst
  | ok left =>
      cases second with
      | error fault => cases hfirst
      | ok right => exact hnext left right (Except.ok.inj hfirst)

/-- Steps whose results look alike give lists that look alike. -/
theorem map_mapM_congr {step other : α → Except ε β} {look : β → γ}
    (hstep : ∀ item, (step item).map look = (other item).map look) (items : List α) :
    (items.mapM step).map (List.map look) = (items.mapM other).map (List.map look) := by
  induction items with
  | nil => rfl
  | cons item rest ih =>
      rw [List.mapM_cons, List.mapM_cons]
      apply map_bind_congr (hstep item)
      intro left right hhead
      apply map_bind_congr ih
      intro lefts rights htail
      refine congrArg Except.ok ?_
      rw [List.map_cons, List.map_cons, hhead, htail]

/-! ## Items and their results -/

/-- If each item has a partner, the list has a list of partners. -/
theorem exists_forall₂ {R : α → β → Prop} {lefts : List α}
    (heach : ∀ left ∈ lefts, ∃ right, R left right) : ∃ rights, List.Forall₂ R lefts rights := by
  induction lefts with
  | nil => exact ⟨[], .nil⟩
  | cons left rest ih =>
      obtain ⟨right, hhead⟩ := heach left List.mem_cons_self
      obtain ⟨rights, htail⟩ := ih fun other hmem =>
        heach other (List.mem_cons_of_mem left hmem)
      exact ⟨right :: rights, .cons hhead htail⟩

/-- In related lists, each item on the right has a partner on the left. -/
theorem exists_of_mem_right {R : α → β → Prop} {lefts : List α} {rights : List β}
    (hrel : List.Forall₂ R lefts rights) {right : β} (hmem : right ∈ rights) :
    ∃ left ∈ lefts, R left right := by
  induction hrel with
  | nil => simp at hmem
  | cons hhead _ ih =>
      rcases List.mem_cons.1 hmem with rfl | hmem
      · exact ⟨_, List.mem_cons_self, hhead⟩
      · obtain ⟨left, hleft, hrel⟩ := ih hmem
        exact ⟨left, List.mem_cons_of_mem _ hleft, hrel⟩

/-- Items are related by way of others if they are related to others and those to theirs. -/
theorem forall₂_exists_iff {R : α → β → Prop} {S : β → γ → Prop} {lefts : List α}
    {rights : List γ} :
    List.Forall₂ (fun left right => ∃ middle, R left middle ∧ S middle right) lefts rights ↔
      ∃ middles, List.Forall₂ R lefts middles ∧ List.Forall₂ S middles rights := by
  constructor
  · intro hrel
    induction hrel with
    | nil => exact ⟨[], .nil, .nil⟩
    | cons hhead _ ih =>
        obtain ⟨middle, hleft, hright⟩ := hhead
        obtain ⟨middles, hlefts, hrights⟩ := ih
        exact ⟨middle :: middles, .cons hleft hlefts, .cons hright hrights⟩
  · rintro ⟨middles, hlefts, hrights⟩
    induction hlefts generalizing rights with
    | nil =>
        obtain rfl := List.forall₂_nil_left_iff.1 hrights
        exact .nil
    | cons hleft _ ih =>
        obtain ⟨right, others, hright, hothers, rfl⟩ := List.forall₂_cons_left_iff.1 hrights
        exact .cons ⟨_, hleft, hright⟩ (ih hothers)

theorem exists_of_mem_left {R : α → β → Prop} {lefts : List α} {rights : List β}
    (hrel : List.Forall₂ R lefts rights) {left : α} (hmem : left ∈ lefts) :
    ∃ right ∈ rights, R left right :=
  exists_of_mem_right hrel.flip hmem

/-- What is found under a key has something related to it under the key. -/
theorem exists_of_lookup_left {R : String × α → String × β → Prop} {lefts : List (String × α)}
    {rights : List (String × β)} (hrel : List.Forall₂ R lefts rights)
    (hkey : ∀ {left right}, R left right → left.1 = right.1) {key : String} {left : α}
    (hlookup : lefts.lookup key = some left) :
    ∃ right, rights.lookup key = some right ∧ R (key, left) (key, right) := by
  induction hrel with
  | nil => cases hlookup
  | @cons first second _ _ hhead _ ih =>
      obtain ⟨name, value⟩ := first
      obtain ⟨other, found⟩ := second
      obtain rfl : name = other := hkey hhead
      rw [List.lookup_cons] at hlookup ⊢
      split at hlookup
      next hsame =>
        obtain rfl := eq_of_beq hsame
        obtain rfl := Option.some.inj hlookup
        exact ⟨found, rfl, hhead⟩
      next => exact ih hlookup

theorem flatMap_perm_of_forall₂ {look : α → List γ} {other : β → List γ} {lefts : List α}
    {rights : List β} (hrel : List.Forall₂ (fun left right => (look left).Perm (other right))
      lefts rights) : (lefts.flatMap look).Perm (rights.flatMap other) := by
  induction hrel with
  | nil => exact .nil
  | cons hhead _ ih =>
      rw [List.flatMap_cons, List.flatMap_cons]
      exact hhead.append ih

/-- What parts with a separator between them hold is the separator or held by one of the parts. -/
theorem mem_of_mem_intercalate {separator item : α} {parts : List (List α)}
    (hmem : item ∈ [separator].intercalate parts) :
    item = separator ∨ ∃ part ∈ parts, item ∈ part := by
  induction parts with
  | nil => cases hmem
  | cons part rest ih =>
      cases rest with
      | nil => exact .inr ⟨part, List.mem_cons_self, by simpa using hmem⟩
      | cons next others =>
          rw [List.intercalate_cons_cons, List.mem_append, List.mem_append,
            List.mem_singleton] at hmem
          rcases hmem with (hpart | hseparator) | hrest
          · exact .inr ⟨part, List.mem_cons_self, hpart⟩
          · exact .inl hseparator
          · exact (ih hrest).imp_right fun ⟨other, hother, hitem⟩ =>
              ⟨other, List.mem_cons_of_mem _ hother, hitem⟩

end RestQuery
