import RestQuery.Proofs.Filter.Problems
import RestQuery.Proofs.Plan.Authority

/-!
# What becomes of filters

Applying filters only adds clauses, and a join stays unless it is made exclusive.  In a pass
without errors the clauses of every filter are there at the end, and none of them is a
full-text search.

Main statements: `Level.Applied.keeps_foldl` and `Level.Reading.filter_isSearch`.
-/

namespace RestQuery

theorem Parameter.single_eq_ok_iff {parameter : Parameter} {s : String} :
    parameter.single = .ok s ↔ parameter.value.single? = some s := by
  rw [single]
  split <;> simp_all

namespace Level

variable {catalog : Catalog} {level : Level} {capability : Capability} {entry : String}
  {params : Params}

/-! ## Filters -/

namespace Applied

variable {applied : Applied} {filter : Filter}

/-- Clauses are only added, and a join stays unless there must be no related row. -/
structure Grows (before after : Applied) : Prop where
  clauses : before.clauses <+: after.clauses
  joins : ∀ name join, before.joins.get? name = some join →
    ∃ stored, after.joins.get? name = some stored ∧ (stored = join ∨ stored = .leftExclusive)

theorem Grows.refl (applied : Applied) : applied.Grows applied :=
  ⟨List.prefix_refl _, fun _ join hjoin => ⟨join, hjoin, .inl rfl⟩⟩

theorem grows_refuse (applied : Applied) (errors : List RequestError) :
    applied.Grows (applied.refuse errors) := ⟨(Grows.refl _).clauses, (Grows.refl _).joins⟩

theorem grows_addField (applied : Applied) (field : FieldRef) (clauses : List Clause) :
    applied.Grows (applied.addField field clauses) := by
  refine ⟨List.prefix_append _ _, fun name join hjoin => ⟨join, ?_, .inl rfl⟩⟩
  rw [Applied.addField]
  split
  · exact Table.get?_insertNew_of_get? hjoin
  · exact hjoin

theorem grows_addExistence (applied : Applied) (relation : Relation) (join : JoinKind)
    (clauses : List Clause) : applied.Grows (applied.addExistence relation join clauses) := by
  refine ⟨List.prefix_append _ _, fun name old hold => ?_⟩
  cases join with
  | inner => exact ⟨old, Table.get?_insertNew_of_get? hold, .inl rfl⟩
  | leftExclusive =>
      by_cases hname : name = relation.name
      · exact ⟨.leftExclusive, by simp [addExistence, hname], .inr rfl⟩
      · exact ⟨old, by simp [addExistence, hname, hold], .inl rfl⟩

/-- Applying a filter takes nothing back. -/
theorem grows_add (applied : Applied) (filter : Filter) : applied.Grows (applied.add filter) := by
  rw [Applied.add]
  split
  · split
    · exact applied.grows_addField _ _
    · exact applied.grows_refuse _
  · dsimp only
    split
    · exact applied.grows_addExistence _ _ _
    · exact applied.grows_refuse _

/-- A filter has become clauses, and a filter on existence a join as well. -/
def Keeps (applied : Applied) (filter : Filter) : Prop :=
  match filter.subject with
  | .field field type =>
    ∃ clauses, Filter.compile type field filter.rule filter.parameter.value = .ok clauses ∧
      clauses <:+: applied.clauses
  | .existence relation =>
    ∃ s join clauses stored, filter.parameter.value.single? = some s ∧
      Filter.compileExistence relation filter.rule s = .ok (join, clauses) ∧
      clauses <:+: applied.clauses ∧ applied.joins.get? relation.name = some stored ∧
      (stored = join ∨ stored = .leftExclusive)

/-- What a filter has become stays. -/
theorem Keeps.of_grows {after : Applied} (hkeeps : applied.Keeps filter)
    (hgrows : applied.Grows after) : after.Keeps filter := by
  rw [Keeps] at hkeeps ⊢
  split
  next field type hsubject =>
    rw [hsubject] at hkeeps
    obtain ⟨clauses, hcompile, hclauses⟩ := hkeeps
    exact ⟨clauses, hcompile, hclauses.trans hgrows.clauses.isInfix⟩
  next relation hsubject =>
    rw [hsubject] at hkeeps
    obtain ⟨s, join, clauses, stored, hs, hcompile, hclauses, hjoin, hstored⟩ := hkeeps
    obtain ⟨later, hlater, hkept⟩ := hgrows.joins _ _ hjoin
    refine ⟨s, join, clauses, later, hs, hcompile, hclauses.trans hgrows.clauses.isInfix,
      hlater, ?_⟩
    rcases hkept with rfl | hexclusive
    · exact hstored
    · exact .inr hexclusive

/-- Errors stay, so that there were none before if there are none now. -/
theorem errors_of_add (hvalid : (applied.add filter).errors = []) : applied.errors = [] := by
  rw [Applied.add] at hvalid
  split at hvalid
  · split at hvalid
    · exact hvalid
    · exact (List.append_eq_nil_iff.1 hvalid).1
  · dsimp only at hvalid
    split at hvalid
    · exact hvalid
    · exact (List.append_eq_nil_iff.1 hvalid).1

theorem exists_get?_addExistence (applied : Applied) (relation : Relation) (join : JoinKind)
    (clauses : List Clause) :
    ∃ stored, (applied.addExistence relation join clauses).joins.get? relation.name = some stored ∧
      (stored = join ∨ stored = .leftExclusive) := by
  cases join with
  | inner =>
      have hget := applied.joins.get?_insertNew relation.name relation.name .inner
      rw [if_pos rfl] at hget
      refine ⟨_, hget, ?_⟩
      cases (applied.joins.get? relation.name).getD .inner with
      | inner => exact .inl rfl
      | leftExclusive => exact .inr rfl
  | leftExclusive => exact ⟨.leftExclusive, by simp [addExistence], .inl rfl⟩

/-- A filter that is applied without an error has become what it says. -/
theorem keeps_add (hvalid : (applied.add filter).errors = []) :
    (applied.add filter).Keeps filter := by
  obtain ⟨parameter, subject, rule⟩ := filter
  rw [Applied.add] at hvalid ⊢
  cases subject with
  | field field type =>
      dsimp only at hvalid ⊢
      split at hvalid
      next clauses hcompile =>
        exact ⟨clauses, hcompile, (List.suffix_append _ _).isInfix⟩
      next problems hcompile =>
        have hnone := (List.append_eq_nil_iff.1 hvalid).2
        exact absurd (List.map_eq_nil_iff.1 hnone) (Filter.problems_ne_nil_of_compile hcompile)
  | existence relation =>
      dsimp only at hvalid ⊢
      split at hvalid
      next join clauses hcompiled =>
        obtain ⟨s, hs, hcompile⟩ := bind_eq_ok_iff.1 hcompiled
        obtain ⟨stored, hjoin, hstored⟩ := applied.exists_get?_addExistence relation join clauses
        exact ⟨s, join, clauses, stored, Parameter.single_eq_ok_iff.1 hs,
          mapError_eq_ok_iff.1 hcompile, (List.suffix_append _ _).isInfix, hjoin, hstored⟩
      next error herror => simp [refuse] at hvalid

/-- In a pass without errors every filter has become what it compiles to. -/
theorem keeps_foldl {filters : List Filter} (hvalid : (filters.foldl Applied.add {}).errors = []) :
    ∀ filter ∈ filters, (filters.foldl Applied.add {}).Keeps filter :=
  (holds_foldl (·.errors = []) Keeps (fun _ _ => errors_of_add) (fun _ _ => keeps_add)
    (fun applied filter _ _ hkeeps => hkeeps.of_grows (applied.grows_add filter)) hvalid).2.2

end Applied

/-! ## Searches -/

end Level

/-- Whether a clause is a full-text search. -/
def Clause.isSearch (clause : Clause) : Bool := clause.kind = .test .fullTextMatch

theorem Clause.Applies.isSearch_eq {type : FieldType} {field : FieldRef} {operator : Operator}
    {clause : Clause} (happlies : clause.Applies type field operator) :
    clause.isSearch = false := by
  cases happlies with
  | @test check operands hoperator hcount htype =>
      have hcheck : check ≠ .fullTextMatch := by
        rintro rfl
        cases type <;> cases hoperator
      simpa [isSearch, onField] using hcheck
  | anyOf => simp [isSearch, Clause.anyOf]

namespace Level

variable {catalog : Catalog} {level : Level} {capability : Capability} {entry : String}
  {params : Params}

namespace Applied

variable {applied : Applied} {filter : Filter}

/-- Filters add no search. -/
theorem searches_add (hnone : ∀ clause ∈ applied.clauses, clause.isSearch = false) :
    ∀ clause ∈ (applied.add filter).clauses, clause.isSearch = false := by
  rw [Applied.add]
  split
  next field type _ =>
    split
    next clauses hcompile =>
      refine List.forall_mem_append.2 ⟨hnone, fun clause hmem => ?_⟩
      obtain ⟨operator, -, happlies⟩ := (Filter.compile_allowed hcompile).2 clause hmem
      exact happlies.isSearch_eq
    next => exact hnone
  next relation _ =>
    dsimp only
    split
    next join clauses hcompiled =>
      obtain ⟨s, -, hcompile⟩ := bind_eq_ok_iff.1 hcompiled
      refine List.forall_mem_append.2 ⟨hnone, fun clause hmem => ?_⟩
      rcases Filter.compileExistence_eq_ok (mapError_eq_ok_iff.1 hcompile) with
        ⟨-, rfl, -⟩ | ⟨-, -, rfl⟩
      · cases hmem
      · rw [List.mem_singleton.1 hmem]
        rfl
    next => exact hnone

/-- Filters are no searches. -/
theorem searches_foldl (filters : List Filter) :
    (filters.foldl Applied.add {}).clauses.filter Clause.isSearch = [] := by
  have hempty : ∀ clause ∈ ({} : Applied).clauses, clause.isSearch = false := nofun
  have hnone := List.foldlRecOn
    (motive := fun applied : Applied => ∀ clause ∈ applied.clauses, clause.isSearch = false)
    filters Applied.add hempty fun applied hnone filter _ => searches_add hnone
  rw [List.filter_eq_nil_iff]
  exact fun clause hmem => by simp [hnone clause hmem]

end Applied

theorem isSearch_of_mem_compileSearch {column words : String} {clause : Clause}
    (hmem : clause ∈ Filter.compileSearch column words) : clause.isSearch = true := by
  obtain ⟨bare, rfl⟩ := Filter.eq_onField_of_mem_compileSearch hmem
  rfl

/-! ## Filters and search of a level -/

namespace Reading

variable {reading : Reading}

theorem grows_apply (reading : Reading) (level : Level) :
    (reading.filters.foldl Applied.add {}).Grows (reading.apply level) := by
  rw [Reading.apply]
  split
  next parameter _ =>
    rw [Applied.addSearch]
    split
    · exact ⟨List.prefix_append _ _, fun name join hjoin => ⟨join, hjoin, .inl rfl⟩⟩
    · exact Applied.grows_refuse _ _
  next => exact .refl _

theorem errors_of_apply (hvalid : (reading.apply level).errors = []) :
    (reading.filters.foldl Applied.add {}).errors = [] := by
  rw [Reading.apply] at hvalid
  split at hvalid
  next =>
    rw [Applied.addSearch] at hvalid
    split at hvalid
    · exact hvalid
    · exact (List.append_eq_nil_iff.1 hvalid).1
  next => exact hvalid

/-- If nothing is wrong with the filters of a level, each of them has become clauses. -/
theorem keeps_apply (hvalid : (reading.apply level).errors = []) :
    ∀ filter ∈ reading.filters, (reading.apply level).Keeps filter := fun filter hmem =>
  (Applied.keeps_foldl (errors_of_apply hvalid) filter hmem).of_grows (reading.grows_apply level)

/-- If nothing is wrong with the search of a level, it is the one search among the clauses. -/
theorem filter_isSearch (hvalid : (reading.apply level).errors = []) {parameter : Parameter}
    (hsearch : reading.search = some parameter) :
    ∃ s, parameter.value.single? = some s ∧
      (reading.apply level).clauses.filter Clause.isSearch =
        Filter.compileSearch level.resource.searchColumn s := by
  rw [Reading.apply] at hvalid ⊢
  rw [hsearch] at hvalid ⊢
  dsimp only [Applied.addSearch] at hvalid ⊢
  cases hsingle : parameter.single with
  | error error => simp [hsingle, Applied.refuse] at hvalid
  | ok s =>
      refine ⟨s, Parameter.single_eq_ok_iff.1 hsingle, ?_⟩
      rw [List.filter_append, Applied.searches_foldl, List.nil_append, List.filter_eq_self]
      exact fun clause => isSearch_of_mem_compileSearch

end Reading

end Level

end RestQuery
