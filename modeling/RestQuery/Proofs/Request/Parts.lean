import RestQuery.Proofs.Request.Routing

/-!
# The parts of a routing

Routing takes the entries of a level apart.  Its filters are the entries that become filters, in
their order; a control is the first entry for it; the parameters for a relation are the entries
that go there, under the rest of their keys.  An entry is refused for what it is, or because an
earlier one has taken its place.

Main statements: `Params.filters_route`, `Params.control?_route`, `Params.getD_relations_route`
and `Params.errors_route`.
-/

namespace RestQuery

def Parameter.bare (parameter : Parameter) : Parameter := { parameter with rawKey := "" }

/-- What only one entry of a level may be: a control, or a key at the level of a relation. -/
inductive Place where
  | control (name : String)
  | nested (relation rest : String)
  deriving DecidableEq, Repr

/-- The key, in normal form, of an entry that takes a place. -/
def Place.key : Place → String
  | control name => name
  | nested relation rest => relation ++ "." ++ Key.normal rest

namespace Route

def filter? : Route → Option Parameter
  | filter parameter => some parameter
  | _ => none

def control? : Route → Option Parameter
  | control parameter => some parameter
  | _ => none

def rest? (name : String) : Route → Option String
  | relation other rest _ => if other = name then some rest else none
  | _ => none

def place? : Route → Option Place
  | control parameter => some (.control parameter.key)
  | relation name rest _ => some (.nested name rest)
  | _ => none

/-- The error with which an entry is refused when some places are taken. -/
def refusal? (taken : List Place) : Route → Option RequestError
  | filter _ => none
  | control parameter =>
    if .control parameter.key ∈ taken then some (parameter.error .duplicateParameter) else none
  | relation name rest parameter =>
    if .nested name rest ∈ taken then some (parameter.error .duplicateParameter) else none
  | refused error => some error

/-- The entries of a list that are refused, each with its error. -/
def refusals (taken : List Place) : List Route → List (Route × RequestError)
  | [] => []
  | route :: rest =>
    (route.refusal? taken).toList.map (route, ·) ++ refusals (taken ++ route.place?.toList) rest

end Route

namespace Routed

variable {routed : Routed} {value : Json} {route : Route} {name : String}

/-! ## One entry -/

theorem filters_add :
    (routed.add value route).filters = routed.filters ++ route.filter?.toList := by
  cases route with
  | filter parameter => rfl
  | control parameter =>
      rw [Routed.add]
      split <;> simp [refuse, Route.filter?]
  | relation name rest parameter =>
      rw [Routed.add]
      split <;> simp [refuse, Route.filter?]
  | refused error => simp [Routed.add, refuse, Route.filter?]

theorem get?_controls_add_eq :
    (routed.add value route).controls.get? name =
      (routed.controls.get? name).or (route.control?.filter (·.key == name)) := by
  cases route with
  | filter parameter => simp [Routed.add, Route.control?]
  | control parameter =>
      rw [Routed.add]
      split
      next hcontains =>
        by_cases hname : parameter.key = name
        · obtain ⟨found, hfound⟩ := Option.isSome_iff_exists.1 hcontains
          rw [hname] at hfound
          simp [refuse, hfound]
        · simp [refuse, Route.control?, Option.filter, hname]
      next hnew =>
        rw [Table.get?_insert]
        by_cases hname : name = parameter.key
        · have hnone : routed.controls.get? name = none := by
            rw [hname]
            simpa [Table.contains] using hnew
          simp [Route.control?, Option.filter, hname ▸ hnone, hname]
        · simp [Route.control?, Option.filter, hname, Ne.symm hname]
  | relation name rest parameter =>
      rw [Routed.add]
      split <;> simp [refuse, Route.control?]
  | refused error => simp [Routed.add, refuse, Route.control?]

theorem getD_relations_add :
    ((routed.add value route).relations.get? name).getD {} =
      ⟨((routed.relations.get? name).getD {}).entries.insertAll
        ((route.rest? name).map (·, value)).toList⟩ := by
  have hnone : ⟨((routed.relations.get? name).getD {}).entries.insertAll []⟩ =
      (routed.relations.get? name).getD {} := rfl
  cases route with
  | filter parameter => exact hnone.symm
  | control parameter =>
      rw [Routed.add]
      split <;> exact hnone.symm
  | relation other rest parameter =>
      have hstored : ((routed.relations.insert other
            (((routed.relations.get? other).getD {}).insert rest value)).get? name).getD {} =
          ⟨((routed.relations.get? name).getD {}).entries.insertAll
            (((Route.relation other rest parameter).rest? name).map (·, value)).toList⟩ := by
        rw [Table.get?_insert]
        by_cases hname : name = other
        · subst hname
          simp [Route.rest?, Table.insertAll, Params.insert]
        · simp [Route.rest?, Ne.symm hname, hname, Table.insertAll]
      rw [Routed.add]
      split <;> exact hstored
  | refused error => exact hnone.symm

def holds (routed : Routed) : Place → Bool
  | .control name => routed.controls.contains name
  | .nested relation rest => ((routed.relations.get? relation).getD {}).entries.contains rest

/-- A place is taken if it was before or if the entry takes it. -/
theorem holds_add {place : Place} :
    (routed.add value route).holds place = true ↔
      routed.holds place = true ∨ route.place? = some place := by
  cases place with
  | control name =>
      rw [holds, holds, Table.contains, Table.contains, get?_controls_add_eq]
      cases route <;> simp [Route.control?, Route.place?, Option.isSome_filter]
  | nested relation rest =>
      rw [holds, holds, Table.contains, Table.contains, getD_relations_add]
      cases route with
      | relation other key parameter =>
          by_cases hname : other = relation
          · by_cases hrest : rest = key
            · simp [Route.rest?, Route.place?, Table.insertAll, hname, hrest]
            · simp [Route.rest?, Route.place?, Table.insertAll, hname, hrest, Ne.symm hrest]
          · simp [Route.rest?, Route.place?, Table.insertAll, hname]
      | filter parameter => simp [Route.rest?, Route.place?, Table.insertAll]
      | control parameter => simp [Route.rest?, Route.place?, Table.insertAll]
      | refused error => simp [Route.rest?, Route.place?, Table.insertAll]

/-- An entry adds the error with which it is refused, if it is. -/
theorem errors_add {taken : List Place}
    (htaken : ∀ place, place ∈ taken ↔ routed.holds place = true) :
    (routed.add value route).errors = routed.errors ++ (route.refusal? taken).toList := by
  cases route with
  | filter parameter => simp [Routed.add, Route.refusal?]
  | control parameter =>
      have hplace := htaken (.control parameter.key)
      rw [holds] at hplace
      by_cases hcontains : routed.controls.contains parameter.key = true
      · simp [Routed.add, Route.refusal?, hplace, hcontains, errors_refuse]
      · simp [Routed.add, Route.refusal?, hplace, hcontains]
  | relation name rest parameter =>
      have hplace := htaken (.nested name rest)
      rw [holds] at hplace
      by_cases hcontains : ((routed.relations.get? name).getD {}).entries.contains rest = true
      · simp [Routed.add, Route.refusal?, hplace, hcontains, errors_refuse]
      · simp [Routed.add, Route.refusal?, hplace, hcontains]
  | refused error => simp [Routed.add, Route.refusal?, errors_refuse]

/-! ## All entries -/

variable (route : String × Json → Route)

/-- Adds entries in turn, each where it goes. -/
def addAll (routed : Routed) (entries : List (String × Json)) : Routed :=
  entries.foldl (fun done entry => done.add entry.2 (route entry)) routed

variable (entries : List (String × Json))

/-- The filters of entries are put aside in the order of the entries. -/
theorem filters_addAll (routed : Routed) :
    (routed.addAll route entries).filters =
      routed.filters ++ entries.filterMap fun entry => (route entry).filter? := by
  induction entries generalizing routed with
  | nil => simp [addAll]
  | cons entry rest ih =>
      rw [addAll, List.foldl_cons, ← addAll, ih, filters_add, List.append_assoc]
      cases hfilter : (route entry).filter? <;> simp [hfilter]

theorem get?_controls_addAll (routed : Routed) (name : String) :
    (routed.addAll route entries).controls.get? name =
      (routed.controls.get? name).or
        ((entries.filterMap fun entry => (route entry).control?).find? (·.key == name)) := by
  induction entries generalizing routed with
  | nil => simp [addAll]
  | cons entry rest ih =>
      rw [addAll, List.foldl_cons, ← addAll, ih, get?_controls_add_eq, Option.or_assoc]
      cases hcontrol : (route entry).control? with
      | none => simp [hcontrol]
      | some parameter =>
          by_cases hname : parameter.key = name <;>
            simp [hcontrol, Option.filter, hname]

theorem getD_relations_addAll (routed : Routed) (name : String) :
    ((routed.addAll route entries).relations.get? name).getD {} =
      ⟨((routed.relations.get? name).getD {}).entries.insertAll
        (entries.filterMap fun entry => ((route entry).rest? name).map (·, entry.2))⟩ := by
  induction entries generalizing routed with
  | nil => rfl
  | cons entry rest ih =>
      rw [addAll, List.foldl_cons, ← addAll, ih, getD_relations_add]
      cases hrest : (route entry).rest? name <;>
        simp [hrest, Table.insertAll]

theorem errors_addAll (routed : Routed) {taken : List Place}
    (htaken : ∀ place, place ∈ taken ↔ routed.holds place = true) :
    (routed.addAll route entries).errors =
      routed.errors ++ (Route.refusals taken (entries.map route)).map Prod.snd := by
  induction entries generalizing routed taken with
  | nil => simp [addAll, Route.refusals]
  | cons entry rest ih =>
      have hnext : ∀ place, place ∈ taken ++ (route entry).place?.toList ↔
          (routed.add entry.2 (route entry)).holds place = true := by
        intro place
        rw [List.mem_append, holds_add, htaken, Option.mem_toList]
      rw [addAll, List.foldl_cons, ← addAll, ih _ hnext, errors_add htaken, List.map_cons,
        Route.refusals, List.map_append, List.append_assoc, List.map_map]
      congr 2
      cases (route entry).refusal? taken <;> rfl

end Routed

namespace Params

variable (params : Params) (keys : Keys) (trace : String)

theorem filters_route :
    (params.route keys trace).filters =
      params.entries.entries.filterMap fun entry => (keys.route trace entry.1 entry.2).filter? :=
  Routed.filters_addAll _ _ {}

theorem control?_route (control : Control) :
    (params.route keys trace).control? control =
      (params.entries.entries.filterMap fun entry =>
        (keys.route trace entry.1 entry.2).control?).find? (·.key == control.name) :=
  Routed.get?_controls_addAll _ _ {} control.name

/-- The parameters for a relation are the entries that go there, under the rest of their keys. -/
theorem getD_relations_route (name : String) :
    ((params.route keys trace).relations.get? name).getD {} =
      ⟨.ofList (params.entries.entries.filterMap fun entry =>
        ((keys.route trace entry.1 entry.2).rest? name).map (·, entry.2))⟩ :=
  Routed.getD_relations_addAll _ _ {} name

theorem errors_route :
    (params.route keys trace).errors =
      (Route.refusals [] (params.entries.entries.map fun entry =>
        keys.route trace entry.1 entry.2)).map Prod.snd := by
  refine Routed.errors_addAll _ _ {} fun place => ?_
  cases place <;> simp [Routed.holds, Table.contains]

end Params

/-! ## Entries that go to a relation -/

theorem Route.rest?_eq_some_iff {route : Route} {name rest : String} :
    route.rest? name = some rest ↔ ∃ parameter, route = .relation name rest parameter := by
  cases route with
  | relation other key parameter => simp [rest?]
  | filter parameter => simp [rest?]
  | control parameter => simp [rest?]
  | refused error => simp [rest?]

theorem Keys.normal_of_route {keys : Keys} {trace rawKey name rest : String} {rawValue : Json}
    {parameter : Parameter}
    (hroute : keys.route trace rawKey rawValue = .relation name rest parameter) :
    Key.normal rawKey = name ++ "." ++ Key.normal rest := by
  rw [Key.normal, normalSegments_of_route hroute, Key.ofSegments,
    Text.join_cons name (Key.normalSegments_ne_nil rest)]
  rfl

/-! ## Entries that are refused -/

theorem Keys.key_of_control? {keys : Keys} {trace rawKey : String} {rawValue : Json}
    {parameter : Parameter}
    (hcontrol : (keys.route trace rawKey rawValue).control? = some parameter) :
    parameter.key = Key.normal rawKey ∧ parameter.trace = trace ++ "." ++ Key.normal rawKey := by
  cases hroute : keys.route trace rawKey rawValue with
  | control other =>
      rw [hroute] at hcontrol
      obtain rfl := Option.some.inj hcontrol
      obtain ⟨value, -, hparameter⟩ := exists_value_of_route hroute nofun
      obtain ⟨rfl, -⟩ := control_of_routeParameter hparameter
      exact ⟨rfl, rfl⟩
  | filter other => simp [hroute, Route.control?] at hcontrol
  | relation name rest other => simp [hroute, Route.control?] at hcontrol
  | refused error => simp [hroute, Route.control?] at hcontrol

theorem Keys.normal_of_place? {keys : Keys} {trace rawKey : String} {rawValue : Json}
    {place : Place} (hplace : (keys.route trace rawKey rawValue).place? = some place) :
    Key.normal rawKey = place.key := by
  cases hroute : keys.route trace rawKey rawValue with
  | control parameter =>
      rw [hroute] at hplace
      obtain rfl := Option.some.inj hplace
      exact (key_of_control? (congrArg Route.control? hroute)).1.symm
  | relation name rest parameter =>
      rw [hroute] at hplace
      obtain rfl := Option.some.inj hplace
      exact normal_of_route hroute
  | filter parameter => simp [hroute, Route.place?] at hplace
  | refused error => simp [hroute, Route.place?] at hplace

namespace Route

variable {routes : List Route} {taken others : List Place}

/-- The error of an entry that is refused for what it is. -/
def error? : Route → Option RequestError
  | refused error => some error
  | _ => none

theorem refusal?_eq_error? {route : Route} (hfree : ∀ place ∈ route.place?, place ∉ taken) :
    route.refusal? taken = route.error? := by
  cases route with
  | filter parameter => rfl
  | control parameter => simpa [refusal?, error?, place?] using hfree
  | relation name rest parameter => simpa [refusal?, error?, place?] using hfree
  | refused error => rfl

/-- What is refused is so with regard to the entries before it. -/
theorem exists_of_mem_refusals {refusal : Route × RequestError}
    (hmem : refusal ∈ refusals taken routes) :
    ∃ before after, routes = before ++ refusal.1 :: after ∧
      refusal.1.refusal? (taken ++ before.filterMap place?) = some refusal.2 := by
  induction routes generalizing taken with
  | nil => cases hmem
  | cons route rest ih =>
      rw [refusals, List.mem_append, List.mem_map] at hmem
      rcases hmem with ⟨error, herror, rfl⟩ | hrest
      · exact ⟨[], rest, rfl, by simpa using herror⟩
      · obtain ⟨before, after, rfl, herror⟩ := ih hrest
        refine ⟨route :: before, after, rfl, ?_⟩
        rw [List.append_assoc] at herror
        cases hplace : route.place? <;> simpa [hplace] using herror

/-- Entries that take different places are only refused for what they are. -/
theorem refusals_of_nodup (hplaces : (taken ++ routes.filterMap place?).Nodup) :
    refusals taken routes = routes.filterMap fun route => route.error?.map (route, ·) := by
  induction routes generalizing taken with
  | nil => rfl
  | cons route rest ih =>
      have hfree : ∀ place ∈ route.place?, place ∉ taken := by
        intro place hplace hmem
        rw [Option.mem_def] at hplace
        rw [List.filterMap_cons_some hplace, List.nodup_append] at hplaces
        exact hplaces.2.2 place hmem place List.mem_cons_self rfl
      have hrest : ((taken ++ route.place?.toList) ++ rest.filterMap place?).Nodup := by
        cases hplace : route.place? <;> simpa [hplace] using hplaces
      rw [refusals, ih hrest, refusal?_eq_error? hfree]
      cases herror : route.error? <;> simp [herror]

theorem refusal?_congr {route : Route}
    (htaken : ∀ place ∈ route.place?, (place ∈ taken ↔ place ∈ others)) :
    route.refusal? taken = route.refusal? others := by
  cases route with
  | filter parameter => rfl
  | control parameter => simp [refusal?, htaken (.control parameter.key) rfl]
  | relation name rest parameter => simp [refusal?, htaken (.nested name rest) rfl]
  | refused error => rfl

/-- Some of the entries are refused as they are without the others, if these take other
places. -/
theorem filter_refusals (kept : Route → Bool)
    (htaken : ∀ route ∈ routes, kept route = true → ∀ place ∈ route.place?,
      (place ∈ taken ↔ place ∈ others))
    (hapart : ∀ route ∈ routes, ∀ other ∈ routes, kept route = true → kept other = false →
      ∀ place ∈ route.place?, place ∉ other.place?) :
    (refusals taken routes).filter (fun refusal => kept refusal.1) =
      refusals others (routes.filter kept) := by
  induction routes generalizing taken others with
  | nil => rfl
  | cons route rest ih =>
      have hrest := fun other hother => hapart other (List.mem_cons_of_mem _ hother)
      rw [refusals, List.filter_append]
      cases hkept : kept route with
      | true =>
          have hhead := refusal?_congr (htaken route List.mem_cons_self hkept)
          rw [List.filter_cons_of_pos hkept, refusals, hhead]
          congr 1
          · cases route.refusal? others <;> simp [hkept]
          · refine ih (fun other hother hk place hplace => ?_) fun other hother last hlast =>
              hrest other hother last (List.mem_cons_of_mem _ hlast)
            rw [List.mem_append, List.mem_append,
              htaken other (List.mem_cons_of_mem _ hother) hk place hplace]
      | false =>
          have hdropped : ((route.refusal? taken).toList.map (route, ·)).filter
              (fun refusal => kept refusal.1) = [] := by
            cases route.refusal? taken <;> simp [hkept]
          have hneg : ¬kept route = true := by rw [hkept]; exact Bool.false_ne_true
          rw [List.filter_cons_of_neg hneg, hdropped, List.nil_append]
          refine ih (fun other hother hk place hplace => ?_) fun other hother last hlast =>
            hrest other hother last (List.mem_cons_of_mem _ hlast)
          have hother' : route.place? ≠ some place :=
            hrest other hother route List.mem_cons_self hk hkept place hplace
          rw [List.mem_append, Option.mem_toList, or_iff_left hother',
            htaken other (List.mem_cons_of_mem _ hother) hk place hplace]

end Route

end RestQuery
