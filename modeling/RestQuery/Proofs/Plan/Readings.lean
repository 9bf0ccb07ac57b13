import RestQuery.Proofs.Plan.Visits
import RestQuery.Proofs.Request.Parts

/-!
# What a level makes of its parameters

A filter becomes clauses and perhaps a join, or it is an error, and never both.  So the clauses of
a level are those of its filters in order, followed by the search, and a join is the strongest
that a filter needs.  A control becomes a value, or is an error and leaves the default value.

Main statements: `Visit.filters_planOf`, `Visit.get?_joins_planOf` and `Visit.errors_planOf_eq`.
-/

namespace RestQuery

/-- Of the joins that filters need, that there must be no related row outweighs that there has to
be one. -/
def JoinKind.strongest (joins : List JoinKind) : Option JoinKind :=
  if .leftExclusive ∈ joins then some .leftExclusive
  else if .inner ∈ joins then some .inner
  else none

namespace JoinKind

/-- Which join is the strongest does not depend on the order. -/
theorem strongest_perm {left right : List JoinKind} (hperm : left.Perm right) :
    strongest left = strongest right := by
  simp only [strongest, hperm.mem_iff]

theorem strongest_append_inner (joins : List JoinKind) :
    strongest (joins ++ [.inner]) = some ((strongest joins).getD .inner) := by
  by_cases hexclusive : .leftExclusive ∈ joins <;> by_cases hinner : .inner ∈ joins <;>
    simp [strongest, hexclusive, hinner]

theorem strongest_append_leftExclusive (joins : List JoinKind) :
    strongest (joins ++ [.leftExclusive]) = some .leftExclusive := by
  simp [strongest]

end JoinKind

/-- Parameters that differ in their keys as given at most are given for each control. -/
def Routed.SameControls (routed other : Routed) : Prop :=
  ∀ control, (routed.control? control).map Parameter.bare =
    (other.control? control).map Parameter.bare

namespace Level

theorem separate_eq (results : List (Except ε α)) :
    separate results = (results.filterMap Except.toOption, results.filterMap failure?) := by
  induction results with
  | nil => rfl
  | cons result rest ih =>
      cases result <;> simp [separate, ih, List.filterMap_cons, Except.toOption, failure?]

namespace Filter

/-- What a filter becomes: clauses, with the join that they need, or errors. -/
def outcome (filter : Level.Filter) :
    Except (List RequestError) (List Clause × Option (String × JoinKind)) :=
  match filter.subject with
  | .field field type =>
    match Filter.compile type field filter.rule filter.parameter.value with
    | .ok clauses =>
      match field.scope with
      | .relation name => .ok (clauses, some (name, .inner))
      | _ => .ok (clauses, none)
    | .error problems => .error (problems.map filter.parameter.error)
  | .existence relation =>
    let compiled := do
      let value ← filter.parameter.single
      (Filter.compileExistence relation filter.rule value).mapError filter.parameter.error
    match compiled with
    | .ok (join, clauses) => .ok (clauses, some (relation.name, join))
    | .error error => .error [error]

def clauses (filter : Level.Filter) : List Clause :=
  match filter.outcome with
  | .ok (clauses, _) => clauses
  | .error _ => []

def errors (filter : Level.Filter) : List RequestError :=
  match filter.outcome with
  | .ok _ => []
  | .error errors => errors

/-- The join with a relation, if it is the one that is needed. -/
def joinWith (name : String) : Option (String × JoinKind) → Option JoinKind
  | some (other, join) => if other = name then some join else none
  | none => none

/-- The join with a relation that a filter in order needs. -/
def join? (name : String) (filter : Level.Filter) : Option JoinKind :=
  match filter.outcome with
  | .ok (_, needed) => joinWith name needed
  | .error _ => none

end Filter

namespace Applied

variable {applied : Applied} {filter : Level.Filter} {name : String}

def take (applied : Applied) (clauses : List Clause) : Option (String × JoinKind) → Applied
  | none => { applied with clauses := applied.clauses ++ clauses }
  | some (name, .inner) =>
    { applied with
      clauses := applied.clauses ++ clauses
      joins := applied.joins.insertNew name .inner }
  | some (name, .leftExclusive) =>
    { applied with
      clauses := applied.clauses ++ clauses
      joins := applied.joins.insert name .leftExclusive }

theorem add_eq (applied : Applied) (filter : Level.Filter) :
    applied.add filter =
      match filter.outcome with
      | .ok (clauses, needed) => applied.take clauses needed
      | .error errors => applied.refuse errors := by
  rw [Applied.add, Filter.outcome]
  cases filter.subject with
  | field field type =>
      dsimp only
      cases Filter.compile type field filter.rule filter.parameter.value with
      | ok clauses => cases hscope : field.scope <;> simp [addField, take, hscope]
      | error problems => rfl
  | existence relation =>
      dsimp only
      cases (do
          let value ← filter.parameter.single
          (Filter.compileExistence relation filter.rule value).mapError filter.parameter.error :
            Except RequestError (JoinKind × List Clause)) with
      | ok compiled =>
          obtain ⟨_ | _, clauses⟩ := compiled <;> rfl
      | error error => rfl

/-- A filter adds its clauses behind the others. -/
theorem clauses_add : (applied.add filter).clauses = applied.clauses ++ filter.clauses := by
  rw [add_eq, Filter.clauses]
  cases filter.outcome with
  | ok taken =>
      obtain ⟨clauses, _ | ⟨name, _ | _⟩⟩ := taken <;> rfl
  | error errors => simp [refuse]

/-- A filter adds its errors behind the others. -/
theorem errors_add : (applied.add filter).errors = applied.errors ++ filter.errors := by
  rw [add_eq, Filter.errors]
  cases filter.outcome with
  | ok taken =>
      obtain ⟨clauses, _ | ⟨name, _ | _⟩⟩ := taken <;> simp [take]
  | error errors => rfl

theorem get?_joins_take {needed : Option (String × JoinKind)} (clauses : List Clause)
    {seen : List JoinKind} (hseen : applied.joins.get? name = JoinKind.strongest seen) :
    (applied.take clauses needed).joins.get? name =
      JoinKind.strongest (seen ++ (Filter.joinWith name needed).toList) := by
  match needed with
  | none => simpa [take, Filter.joinWith] using hseen
  | some (other, .inner) =>
      by_cases hname : other = name
      · simp [take, Filter.joinWith, Table.get?_insertNew, hname, hseen,
          JoinKind.strongest_append_inner]
      · simpa [take, Filter.joinWith, Table.get?_insertNew, hname, Ne.symm hname] using hseen
  | some (other, .leftExclusive) =>
      by_cases hname : other = name
      · simp [take, Filter.joinWith, hname, JoinKind.strongest_append_leftExclusive]
      · simpa [take, Filter.joinWith, hname, Ne.symm hname] using hseen

/-- With each filter the join is the strongest of those needed so far. -/
theorem get?_joins_add {seen : List JoinKind}
    (hseen : applied.joins.get? name = JoinKind.strongest seen) :
    (applied.add filter).joins.get? name =
      JoinKind.strongest (seen ++ (filter.join? name).toList) := by
  rw [add_eq, Filter.join?]
  cases filter.outcome with
  | ok taken => exact get?_joins_take taken.1 hseen
  | error errors => simpa [refuse] using hseen

variable (filters : List Level.Filter)

theorem clauses_foldl (applied : Applied) :
    (filters.foldl Applied.add applied).clauses =
      applied.clauses ++ filters.flatMap Filter.clauses := by
  induction filters generalizing applied with
  | nil => simp
  | cons filter rest ih =>
      rw [List.foldl_cons, ih, clauses_add, List.append_assoc, List.flatMap_cons]

theorem errors_foldl (applied : Applied) :
    (filters.foldl Applied.add applied).errors =
      applied.errors ++ filters.flatMap Filter.errors := by
  induction filters generalizing applied with
  | nil => simp
  | cons filter rest ih =>
      rw [List.foldl_cons, ih, errors_add, List.append_assoc, List.flatMap_cons]

theorem get?_joins_foldl {applied : Applied} {seen : List JoinKind}
    (hseen : applied.joins.get? name = JoinKind.strongest seen) :
    (filters.foldl Applied.add applied).joins.get? name =
      JoinKind.strongest (seen ++ filters.filterMap (Filter.join? name)) := by
  induction filters generalizing applied seen with
  | nil => simpa using hseen
  | cons filter rest ih =>
      rw [List.foldl_cons, ih (get?_joins_add hseen), List.append_assoc]
      cases hjoin : filter.join? name <;> simp [hjoin]

end Applied

/-! ## Controls -/

def search (level : Level) (routed : Routed) : List Clause × List RequestError :=
  controlValue (routed.control? .search) [] fun parameter =>
    parameter.single.map (Filter.compileSearch level.resource.searchColumn)

/-- The value of a control does not depend on how its key was written. -/
theorem controlValue_eq_of_bare {given other : Option Parameter} {default : α}
    {read : Parameter → Except RequestError α}
    (hread : ∀ parameter : Parameter, read parameter.bare = read parameter)
    (hbare : given.map Parameter.bare = other.map Parameter.bare) :
    controlValue given default read = controlValue other default read := by
  have hgiven : ∀ given : Option Parameter,
      controlValue (given.map Parameter.bare) default read = controlValue given default read := by
    intro given
    cases given with
    | none => rfl
    | some parameter => rw [Option.map_some, controlValue, hread, controlValue]
  rw [← hgiven, hbare, hgiven]

section SameControls

variable {level : Level} {capability : Capability} {routed other : Routed}
  (hsame : routed.SameControls other)

include hsame

theorem limit_congr : limit capability routed = limit capability other := by
  rw [limit, limit, controlValue_eq_of_bare (fun _ => rfl) (hsame .limit)]

theorem offset_congr : offset capability routed = offset capability other := by
  rw [offset, offset, controlValue_eq_of_bare (fun _ => rfl) (hsame .offset)]

theorem order_congr : level.order capability routed = level.order capability other := by
  rw [order, order, controlValue_eq_of_bare (fun _ => rfl) (hsame .order)]

theorem search_congr : level.search routed = level.search other := by
  rw [search, search, controlValue_eq_of_bare (fun _ => rfl) (hsame .search)]

theorem projection_congr :
    level.projection capability routed = level.projection capability other := by
  have hbare := hsame .fields
  rw [projection, projection]
  cases hgiven : routed.control? .fields with
  | none =>
      rw [hgiven, Option.map_none, eq_comm, Option.map_eq_none_iff] at hbare
      rw [hbare]
  | some parameter =>
      rw [hgiven, Option.map_some, eq_comm, Option.map_eq_some_iff] at hbare
      obtain ⟨given, hother, hparameter⟩ := hbare
      have hvalue : given.value = parameter.value := congrArg (·.value) hparameter
      have herror : given.error = parameter.error := congrArg (·.error) hparameter
      rw [hother]
      dsimp only
      rw [hvalue, herror]

end SameControls

theorem apply_eq {reading : Reading} {level : Level} {routed : Routed}
    (hsearch : reading.search = routed.control? .search) :
    (reading.apply level).clauses =
        reading.filters.flatMap Filter.clauses ++ (level.search routed).1 ∧
      (reading.apply level).errors =
        reading.filters.flatMap Filter.errors ++ (level.search routed).2 ∧
      ∀ name, (reading.apply level).joins.get? name =
        JoinKind.strongest (reading.filters.filterMap (Filter.join? name)) := by
  have hclauses := Applied.clauses_foldl reading.filters {}
  have herrors := Applied.errors_foldl reading.filters {}
  have hjoins : ∀ name, (reading.filters.foldl Applied.add {}).joins.get? name =
      JoinKind.strongest ([] ++ reading.filters.filterMap (Filter.join? name)) := fun name =>
    Applied.get?_joins_foldl reading.filters rfl
  rw [List.nil_append] at hclauses herrors
  rw [Reading.apply, search, ← hsearch]
  cases reading.search with
  | none => simp [controlValue, hclauses, herrors, hjoins]
  | some parameter =>
      dsimp only [Applied.addSearch, controlValue]
      cases parameter.single <;> simp [Applied.refuse, Except.map, hclauses, herrors, hjoins]

end Level

namespace Visit

variable {catalog : Catalog} {visit : Visit} {name : String}
  {depthErrors : List RequestError} {relations : List (String × Plan)}

/-! ## Levels with their parameters -/

/-- The filters of a level whose keys mean something. -/
def filters (catalog : Catalog) (visit : Visit) : List Level.Filter :=
  visit.routed.filters.filterMap fun parameter =>
    (visit.level.filter catalog visit.capability parameter).toOption

def readErrors (catalog : Catalog) (visit : Visit) : List RequestError :=
  (visit.routed.filters.filterMap fun parameter =>
      failure? (visit.level.filter catalog visit.capability parameter))
    ++ (Level.limit visit.capability visit.routed).2
    ++ (Level.offset visit.capability visit.routed).2
    ++ (visit.level.order visit.capability visit.routed).2
    ++ (visit.level.projection visit.capability visit.routed).2.2

def applyErrors (catalog : Catalog) (visit : Visit) : List RequestError :=
  (visit.filters catalog).flatMap Level.Filter.errors ++ (visit.level.search visit.routed).2

variable (entry : String)

theorem filters_reading : (visit.reading catalog entry).filters = visit.filters catalog := by
  rw [reading, Level.readWith, filters]
  simp only [Level.separate_eq, List.filterMap_map]
  rfl

theorem errors_reading :
    (visit.reading catalog entry).errors = visit.routed.errors ++ visit.readErrors catalog := by
  rw [reading, Level.readWith, readErrors]
  simp only [Level.separate_eq, List.filterMap_map, List.append_assoc]
  rfl

theorem filters_planOf :
    (visit.planOf catalog entry depthErrors relations).filters =
      (visit.filters catalog).flatMap Level.Filter.clauses
        ++ (visit.level.search visit.routed).1 := by
  rw [← filters_reading entry]
  exact (Level.apply_eq rfl).1

theorem get?_joins_planOf :
    (visit.planOf catalog entry depthErrors relations).joins.get? name =
      JoinKind.strongest ((visit.filters catalog).filterMap (Level.Filter.join? name)) := by
  rw [← filters_reading entry]
  exact (Level.apply_eq rfl).2.2 name

theorem limit_planOf :
    (visit.planOf catalog entry depthErrors relations).limit =
      (Level.limit visit.capability visit.routed).1 := rfl

theorem offset_planOf :
    (visit.planOf catalog entry depthErrors relations).offset =
      (Level.offset visit.capability visit.routed).1 := rfl

theorem order_planOf :
    (visit.planOf catalog entry depthErrors relations).order =
      (visit.level.order visit.capability visit.routed).1 := rfl

theorem fields_planOf :
    (visit.planOf catalog entry depthErrors relations).fields = visit.projection.fields := rfl

/-- The errors of a plan, by where they come from: entries, their reading, depth, their application
and the relations. -/
theorem errors_planOf_eq :
    (visit.planOf catalog entry depthErrors relations).errors =
      visit.routed.errors ++ visit.readErrors catalog ++ depthErrors
        ++ visit.applyErrors catalog ++ relations.flatMap fun result => result.2.errors := by
  have happly : ((visit.reading catalog entry).apply visit.level).errors =
      visit.applyErrors catalog := by
    rw [applyErrors, ← filters_reading entry]
    exact (Level.apply_eq rfl).2.1
  rw [← errors_reading entry, ← happly]
  rfl

end Visit

end RestQuery
