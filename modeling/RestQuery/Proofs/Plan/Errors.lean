import RestQuery.Proofs.Filter.Problems
import RestQuery.Proofs.Plan.Authority

/-!
# Errors of a level

What a level reports while it reads and applies its parameters has the trace of one of them
and a problem that a parameter can have.

Main statements: `Level.blamed_of_mem_errors` and `Level.Reading.blamed_of_mem_apply`.
-/

namespace RestQuery

namespace Params

/-- A trace is that of an entry of a level. -/
def Traces (params : Params) (trace located : String) : Prop :=
  ∃ entry ∈ params.entries.entries, located = trace ++ "." ++ Key.normal entry.1

/-- An entry of a level is to blame for an error. -/
structure Blamed (params : Params) (trace : String) (error : RequestError) : Prop where
  traced : params.Traces trace error.trace
  isLocal : error.problem.isDepth = false

end Params

variable {params : Params} {trace : String}

/-- The problems of a parameter are to be blamed on its entry. -/
theorem Parameter.blamed {parameter : Parameter} (htraced : params.Traces trace parameter.trace)
    {problem : Problem} (hlocal : problem.isDepth = false) :
    params.Blamed trace (parameter.error problem) := ⟨htraced, hlocal⟩

/-- A computation that fails does so with an error for which an entry is to blame. -/
def Blames (params : Params) (trace : String) (outcome : Except RequestError α) : Prop :=
  ∀ error, outcome = .error error → params.Blamed trace error

theorem Blames.bind {first : Except RequestError α} (hfirst : Blames params trace first)
    {next : α → Except RequestError β} (hnext : ∀ value, Blames params trace (next value)) :
    Blames params trace (first >>= next) := by
  cases first with
  | error error =>
      intro other herror
      obtain rfl := Except.error.inj herror
      exact hfirst error rfl
  | ok value => exact hnext value

theorem blames_mapError {parameter : Parameter} (htraced : params.Traces trace parameter.trace)
    {outcome : Except Problem α} (hlocal : Local outcome) :
    Blames params trace (outcome.mapError parameter.error) := by
  intro error herror
  cases outcome with
  | ok value => cases herror
  | error problem => exact Except.error.inj herror ▸ parameter.blamed htraced (hlocal problem rfl)

theorem blames_single {parameter : Parameter} (htraced : params.Traces trace parameter.trace) :
    Blames params trace parameter.single := by
  intro error herror
  rw [Parameter.single] at herror
  split at herror
  · cases herror
  · exact Except.error.inj herror ▸ parameter.blamed htraced rfl

/-! ## Routing -/

/-- Where an entry goes says what the trace of the entry is. -/
def Route.Traced (located : String) : Route → Prop
  | .filter parameter | .control parameter | .relation _ _ parameter =>
    parameter.trace = located
  | .refused error => error.trace = located ∧ error.problem.isDepth = false

namespace Keys

variable {keys : Keys} {parameter : Parameter}

theorem traced_routeParameter : (keys.routeParameter parameter).Traced parameter.trace := by
  rw [routeParameter]
  dsimp only
  split
  · split
    · exact rfl
    · exact ⟨rfl, rfl⟩
  split
  · exact rfl
  split
  · split
    · exact ⟨rfl, rfl⟩
    · exact rfl
  split
  · exact rfl
  · exact ⟨rfl, rfl⟩

/-- The trace of an entry ends with its key in normal form. -/
theorem traced_route (keys : Keys) (trace rawKey : String) (rawValue : Json) :
    (keys.route trace rawKey rawValue).Traced (trace ++ "." ++ Key.normal rawKey) := by
  rw [route]
  split
  · exact traced_routeParameter
  · exact ⟨rfl, rfl⟩

end Keys

namespace Routed

/-- What is put aside at a level has the traces of entries, and entries are to blame for the
errors. -/
structure Blameful (params : Params) (trace : String) (routed : Routed) : Prop where
  filters : ∀ parameter ∈ routed.filters, params.Traces trace parameter.trace
  controls : ∀ {name parameter}, routed.controls.get? name = some parameter →
    params.Traces trace parameter.trace
  errors : ∀ error ∈ routed.errors, params.Blamed trace error

variable {routed : Routed}

theorem Blameful.refuse (hblameful : routed.Blameful params trace) {error : RequestError}
    (hblamed : params.Blamed trace error) : (routed.refuse error).Blameful params trace := by
  refine ⟨hblameful.filters, hblameful.controls, fun other hmem => ?_⟩
  rcases List.mem_append.1 hmem with hold | hnew
  · exact hblameful.errors other hold
  · exact List.mem_singleton.1 hnew ▸ hblamed

theorem Blameful.add (hblameful : routed.Blameful params trace) {route : Route}
    {located : String} (htraced : route.Traced located) (hlocated : params.Traces trace located)
    (value : Json) : (routed.add value route).Blameful params trace := by
  cases route with
  | filter parameter =>
      obtain rfl : parameter.trace = located := htraced
      refine ⟨fun other hmem => ?_, hblameful.controls, hblameful.errors⟩
      rcases List.mem_append.1 hmem with hold | hnew
      · exact hblameful.filters other hold
      · exact List.mem_singleton.1 hnew ▸ hlocated
  | control parameter =>
      obtain rfl : parameter.trace = located := htraced
      rw [Routed.add]
      split
      · exact hblameful.refuse (parameter.blamed hlocated rfl)
      refine ⟨hblameful.filters, fun {name other} hget => ?_, hblameful.errors⟩
      rw [Table.get?_insert] at hget
      split at hget
      · exact Option.some.inj hget ▸ hlocated
      · exact hblameful.controls hget
  | relation name rest parameter =>
      obtain rfl : parameter.trace = located := htraced
      have hstored : Blameful params trace
          { routed with
            relations := routed.relations.insert name
              (((routed.relations.get? name).getD {}).insert rest value) } :=
        ⟨hblameful.filters, hblameful.controls, hblameful.errors⟩
      rw [Routed.add]
      split
      · exact hstored.refuse (parameter.blamed hlocated rfl)
      · exact hstored
  | refused error =>
      obtain ⟨rfl, hlocal⟩ := htraced
      exact hblameful.refuse ⟨hlocated, hlocal⟩

end Routed

/-- What is put aside at a level keeps the traces of the entries. -/
theorem Params.route_blameful (params : Params) (keys : Keys) (trace : String) :
    (params.route keys trace).Blameful params trace := by
  apply List.foldlRecOn
  · exact ⟨by simp, by simp, by simp⟩
  · intro routed hblameful entry hmem
    exact hblameful.add (keys.traced_route trace entry.1 entry.2) ⟨entry, hmem, rfl⟩ entry.2

/-! ## Reading a level -/

namespace Level

variable {catalog : Catalog} {level : Level} {capability : Capability} {routed : Routed}

/-- Errors that are collected have entries to blame if each of them has. -/
theorem blamed_of_mem_separate {results : List (Except RequestError α)}
    (hblames : ∀ result ∈ results, Blames params trace result) :
    ∀ error ∈ (separate results).2, params.Blamed trace error := by
  intro error hmem
  induction results with
  | nil => cases hmem
  | cons result rest ih =>
      have hrest := ih fun other hother => hblames other (List.mem_cons_of_mem _ hother)
      cases result with
      | ok value => exact hrest hmem
      | error first =>
          rcases List.mem_cons.1 hmem with rfl | hmem
          · exact hblames _ List.mem_cons_self _ rfl
          · exact hrest hmem

theorem blames_filter {parameter : Parameter} (htraced : params.Traces trace parameter.trace) :
    Blames params trace (level.filter catalog capability parameter) := by
  intro error herror
  rw [Level.filter] at herror
  split at herror
  · cases herror
  · exact Except.error.inj herror ▸ parameter.blamed htraced rfl

theorem blamed_of_mem_controlValue {given : Option Parameter} {default : α}
    {read : Parameter → Except RequestError α}
    (hread : ∀ parameter, given = some parameter → Blames params trace (read parameter)) :
    ∀ error ∈ (controlValue given default read).2, params.Blamed trace error := by
  intro error hmem
  cases given with
  | none => cases hmem
  | some parameter =>
      rw [controlValue] at hmem
      split at hmem
      · cases hmem
      next problem hproblem =>
        exact List.mem_singleton.1 hmem ▸ hread parameter rfl problem hproblem

theorem blames_readLimit (max : UInt32) {parameter : Parameter}
    (htraced : params.Traces trace parameter.trace) :
    Blames params trace (readLimit max parameter) := by
  refine (blames_single htraced).bind fun s => ?_
  intro error herror
  split at herror
  · split at herror
    · cases herror
    · exact Except.error.inj herror ▸ parameter.blamed htraced rfl
  · exact Except.error.inj herror ▸ parameter.blamed htraced rfl

theorem blames_readOffset {parameter : Parameter}
    (htraced : params.Traces trace parameter.trace) :
    Blames params trace (readOffset parameter) := by
  refine (blames_single htraced).bind fun s => ?_
  intro error herror
  split at herror
  · cases herror
  · exact Except.error.inj herror ▸ parameter.blamed htraced rfl

theorem local_readOrder (fields : Order.Fields) (value : String) :
    Local (Order.read fields value) := by
  have htoken : ∀ token, Local (Order.readToken fields token) := by
    intro token
    rw [Order.readToken]
    split
    · split
      · dsimp only
        split
        · exact local_ok _
        split
        · exact local_ok _
        · exact local_error rfl
      · exact local_error rfl
    · exact local_error rfl
  rw [Order.read]
  split
  · exact local_error rfl
  · exact local_mapM htoken _

theorem blames_readOrder (fields : Order.Fields) {parameter : Parameter}
    (htraced : params.Traces trace parameter.trace) :
    Blames params trace (readOrder fields parameter) :=
  (blames_single htraced).bind fun s => blames_mapError htraced (local_readOrder fields s)

theorem local_problems (capability : Capability) (space : NameSpace) (value : String) :
    ∀ problem ∈ (Projection.read capability space value).problems, problem.isDepth = false := by
  have hstep : ∀ (draft : Projection.Draft) (token : String),
      (∀ problem ∈ draft.problems, problem.isDepth = false) →
        ∀ problem ∈ (draft.apply space token).problems, problem.isDepth = false := by
    intro draft token hdraft
    have hadded : ∀ problem : Problem, problem.isDepth = false →
        ∀ other ∈ draft.problems ++ [problem], other.isDepth = false := by
      intro problem hproblem
      rw [List.forall_mem_append, List.forall_mem_singleton]
      exact ⟨hdraft, hproblem⟩
    rw [Projection.Draft.apply]
    split
    · exact hadded _ rfl
    dsimp only
    split
    · exact hdraft
    split
    · exact hdraft
    · exact hadded _ rfl
  exact List.foldlRecOn
    (motive := fun draft : Projection.Draft => ∀ problem ∈ draft.problems, problem.isDepth = false)
    _ _ nofun fun draft hdraft token _ => hstep draft token hdraft

theorem blamed_of_mem_projection
    (hfields : ∀ parameter, routed.control? .fields = some parameter →
      params.Traces trace parameter.trace) :
    ∀ error ∈ (level.projection capability routed).2.2, params.Blamed trace error := by
  rw [projection]
  split
  · exact nofun
  next parameter hgiven =>
    have htraced := hfields parameter hgiven
    split
    · exact List.forall_mem_singleton.2 (parameter.blamed htraced rfl)
    · rw [List.forall_mem_map]
      exact fun problem hmem => parameter.blamed htraced (local_problems _ _ _ problem hmem)

variable {entry : String}

/-- Entries of the level are to blame for what is wrong in reading it. -/
theorem blamed_of_mem_errors :
    ∀ error ∈ (level.readWith catalog entry capability params).errors,
      params.Blamed level.trace error := by
  have hrouted := params.route_blameful (level.keys capability) level.trace
  have hcontrol : ∀ control parameter,
      (params.route (level.keys capability) level.trace).control? control = some parameter →
        params.Traces level.trace parameter.trace :=
    fun control parameter hgiven => hrouted.controls hgiven
  have hunknown : ∀ result ∈ (params.route (level.keys capability) level.trace).filters.map
      (level.filter catalog capability), Blames params level.trace result :=
    List.forall_mem_map.2 fun parameter hmem => blames_filter (hrouted.filters parameter hmem)
  have hlimit : ∀ error ∈ (limit capability
      (params.route (level.keys capability) level.trace)).2,
        params.Blamed level.trace error := by
    rw [limit]
    split
    · exact blamed_of_mem_controlValue fun parameter hgiven =>
        blames_readLimit _ (hcontrol _ parameter hgiven)
    · exact nofun
  have hoffset : ∀ error ∈ (offset capability
      (params.route (level.keys capability) level.trace)).2,
        params.Blamed level.trace error := by
    rw [offset]
    split
    · exact blamed_of_mem_controlValue fun parameter hgiven =>
        blames_readOffset (hcontrol _ parameter hgiven)
    · exact nofun
  have horder : ∀ error ∈ (level.order capability
      (params.route (level.keys capability) level.trace)).2,
        params.Blamed level.trace error := by
    rw [order]
    split
    · exact blamed_of_mem_controlValue fun parameter hgiven =>
        blames_readOrder _ (hcontrol _ parameter hgiven)
    · exact nofun
  have hprojection : ∀ error ∈ (level.projection capability
      (params.route (level.keys capability) level.trace)).2.2,
        params.Blamed level.trace error :=
    blamed_of_mem_projection fun parameter hgiven => hcontrol _ parameter hgiven
  simp only [readWith, List.forall_mem_append]
  exact ⟨⟨⟨⟨⟨hrouted.errors, blamed_of_mem_separate hunknown⟩, hlimit⟩, hoffset⟩, horder⟩,
    hprojection⟩

/-! ## Applying filters -/

namespace Applied

variable {applied : Applied}

theorem blamed_of_mem_add (happlied : ∀ error ∈ applied.errors, params.Blamed trace error)
    {filter : Filter} (htraced : params.Traces trace filter.parameter.trace) :
    ∀ error ∈ (applied.add filter).errors, params.Blamed trace error := by
  have hrefused : ∀ {errors : List RequestError}, (∀ error ∈ errors, params.Blamed trace error) →
      ∀ error ∈ (applied.refuse errors).errors, params.Blamed trace error :=
    fun herrors => List.forall_mem_append.2 ⟨happlied, herrors⟩
  rw [Applied.add]
  split
  next field type _ =>
    split
    next => exact happlied
    next problems hcompile =>
      apply hrefused
      rw [List.forall_mem_map]
      exact fun problem hmem => filter.parameter.blamed htraced
        (Filter.local_compile hcompile problem hmem)
  next relation _ =>
    have hcompiled : Blames params trace (do
        let value ← filter.parameter.single
        (Filter.compileExistence relation filter.rule value).mapError filter.parameter.error) :=
      (blames_single htraced).bind fun value =>
        blames_mapError htraced (Filter.local_compileExistence relation filter.rule value)
    dsimp only
    split
    next => exact happlied
    next error herror =>
      apply hrefused
      exact List.forall_mem_singleton.2 (hcompiled error herror)

theorem blamed_of_mem_addSearch (happlied : ∀ error ∈ applied.errors, params.Blamed trace error)
    (column : String) {parameter : Parameter}
    (htraced : params.Traces trace parameter.trace) :
    ∀ error ∈ (applied.addSearch column parameter).errors, params.Blamed trace error := by
  rw [Applied.addSearch]
  split
  next => exact happlied
  next error herror =>
    refine List.forall_mem_append.2 ⟨happlied, List.forall_mem_singleton.2 ?_⟩
    exact blames_single htraced error herror

end Applied

theorem parameter_of_filter {parameter : Parameter} {filter : Filter}
    (hfilter : level.filter catalog capability parameter = .ok filter) :
    filter.parameter = parameter := by
  rw [Level.filter] at hfilter
  split at hfilter
  · rw [← Except.ok.inj hfilter]
  · cases hfilter

/-- Entries of the level are to blame for what is wrong in applying its filters. -/
theorem Reading.blamed_of_mem_apply :
    ∀ error ∈ ((level.readWith catalog entry capability params).apply level).errors,
      params.Blamed level.trace error := by
  have hrouted := params.route_blameful (level.keys capability) level.trace
  have hfilters : ∀ filter ∈ (level.readWith catalog entry capability params).filters,
      params.Traces level.trace filter.parameter.trace := by
    intro filter hmem
    obtain ⟨parameter, hparameter, hfilter⟩ := List.mem_map.1 (mem_separate hmem)
    rw [parameter_of_filter hfilter]
    exact hrouted.filters parameter hparameter
  have hempty : ∀ error ∈ ({} : Applied).errors, params.Blamed level.trace error := nofun
  have happlied := List.foldlRecOn
    (motive := fun applied => ∀ error ∈ applied.errors, params.Blamed level.trace error)
    (level.readWith catalog entry capability params).filters Applied.add hempty
    fun applied happlied filter hmem => Applied.blamed_of_mem_add happlied (hfilters filter hmem)
  rw [Reading.apply]
  split
  next parameter hsearch =>
    exact Applied.blamed_of_mem_addSearch happlied _ (hrouted.controls hsearch)
  next => exact happlied

end Level

end RestQuery
