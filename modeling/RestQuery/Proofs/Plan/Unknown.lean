import RestQuery.Proofs.Plan.Controls
import RestQuery.Proofs.Plan.Depth

/-!
# Entries that mean nothing

A key of one segment means nothing at a level if it is not the name of a control that the capability
offers, nor a filter of the capability, nor a relation of the resource.  All entries with such a key
are refused, whatever the values of parameters that they have, and nothing else goes wrong where
they lead: no filter, control or relation is there, and no relation that is too deep.

Main statement: `Visit.Plans.errors_unknown`.
-/

namespace RestQuery

/-! ## Values of parameters -/

/-- A value that a parameter may have: a text, a truth value, or an array of one or more texts. -/
def Json.IsParameter : Json → Prop
  | .string _ | .bool _ => True
  | .array items => items ≠ [] ∧ ∀ item ∈ items, ∃ s, item = .string s
  | _ => False

theorem ParamValue.isSome_textOf?_iff {value : Json} :
    (textOf? value).isSome ↔ ∃ s, value = .string s := by
  cases value <;> simp [textOf?]

theorem isSome_mapM_iff {α β : Type} {step : α → Option β} {items : List α} :
    (items.mapM step).isSome ↔ ∀ item ∈ items, (step item).isSome := by
  rw [Option.isSome_iff_exists]
  constructor
  · rintro ⟨results, hresults⟩ item hitem
    obtain ⟨result, -, hresult⟩ := exists_of_mem_left (mapM_eq_some_iff.1 hresults) hitem
    exact Option.isSome_iff_exists.2 ⟨result, hresult⟩
  · intro heach
    obtain ⟨results, hresults⟩ :=
      exists_forall₂ fun item hitem => Option.isSome_iff_exists.1 (heach item hitem)
    exact ⟨results, mapM_eq_some_iff.2 hresults⟩

/-- Values of parameters are texts, truth values and arrays of texts. -/
theorem ParamValue.isSome_ofJson?_iff {value : Json} :
    (ofJson? value).isSome ↔ value.IsParameter := by
  cases value with
  | array items =>
      cases items with
      | nil => simp [ofJson?, Json.IsParameter]
      | cons first rest =>
          rw [ofJson?, Option.isSome_map, isSome_mapM_iff]
          simp only [isSome_textOf?_iff, Json.IsParameter, ne_eq, reduceCtorEq, not_false_eq_true,
            true_and]
          exact nofun
  | _ => simp [ofJson?, Json.IsParameter]

/-! ## Traces -/

namespace Text

variable {separator : Char} {right : List String}

theorem join_append (left : List String) (hright : right ≠ []) :
    join separator (left ++ right) = join separator (left ++ [join separator right]) := by
  induction left with
  | nil => exact (join_singleton _ _).symm
  | cons first rest ih =>
      rw [List.cons_append, List.cons_append, join_cons first (by simp [hright]),
        join_cons first (by simp), ih]

/-- The last part of a path follows the others behind a separator. -/
theorem join_append_singleton (first : String) (rest : List String) (last : String) :
    join separator (first :: (rest ++ [last])) =
      join separator (first :: rest) ++ separator.toString ++ last := by
  induction rest generalizing first with
  | nil => rw [List.nil_append, join_cons first (by simp), join_singleton, join_singleton]
  | cons second others ih => rw [List.cons_append, join_cons_cons, join_cons_cons, ih]

end Text

/-- A trace in which only the resource may have points tells a path from all paths that are no
shorter, if no relation on them has a point in its name. -/
theorem path_of_trace_of_le {trace last other : String} {left right : List String}
    (hlength : left.length ≤ right.length) (hleft : ∀ part ∈ left, '.' ∉ part.toList)
    (hright : ∀ part ∈ right, '.' ∉ part.toList) (hlast : '.' ∉ last.toList)
    (heq : Text.join '.' (trace :: (left ++ [last])) =
      Text.join '.' (trace :: (right ++ [other]))) : left = right ∧ last = other := by
  obtain ⟨first, rest, rfl, hfirst⟩ : ∃ first rest, right = first ++ rest ∧
      first.length = left.length :=
    ⟨right.take left.length, right.drop left.length, (List.take_append_drop _ _).symm,
      List.length_take_of_le hlength⟩
  have hrest : rest ++ [other] ≠ [] := by simp
  have hmany : Text.join '.' (trace :: (first ++ rest ++ [other])) =
      Text.join '.' (trace :: (first ++ [Text.join '.' (rest ++ [other])])) := by
    rw [List.append_assoc, ← List.cons_append, Text.join_append _ hrest, List.cons_append]
  obtain ⟨rfl, hsame⟩ := Visit.path_of_trace hfirst.symm hleft
    (fun part hpart => hright part (List.mem_append_left rest hpart)) (heq.trans hmany)
  cases rest with
  | nil =>
      rw [List.nil_append, Text.join_singleton] at hsame
      exact ⟨(List.append_nil left).symm, hsame⟩
  | cons second others =>
      rw [List.cons_append, Text.join_cons second (by simp)] at hsame
      simp [hsame] at hlast

/-! ## Entries that are refused -/

/-- Of the entries of a level, those that are refused for what they are: the others are refused
only for the place that they take. -/
theorem Route.filter_refusals_eq (kept : RequestError → Bool)
    (hkept : ∀ parameter : Parameter, kept (parameter.error .duplicateParameter) = false)
    (taken : List Place) (routes : List Route) :
    ((refusals taken routes).map Prod.snd).filter kept = (routes.filterMap error?).filter kept := by
  induction routes generalizing taken with
  | nil => rfl
  | cons route rest ih =>
      have hhead : (route.refusal? taken).toList.filter kept = route.error?.toList.filter kept := by
        cases route with
        | filter parameter => rfl
        | control parameter =>
            rw [refusal?]
            split <;> simp [error?, hkept]
        | relation name key parameter =>
            rw [refusal?]
            split <;> simp [error?, hkept]
        | refused error => rfl
      have hsplit : (route :: rest).filterMap error? =
          route.error?.toList ++ rest.filterMap error? := by
        cases herror : route.error? <;> simp [herror]
      rw [refusals, List.map_append, List.filter_append, ih, List.map_map, hsplit,
        List.filter_append, ← hhead]
      congr 2
      exact List.map_id _

namespace Visit

variable {document : Document} {catalog : Catalog} {visit reached : Visit} {depth : Nat}
  {plan : Plan} {path : List String} {entry other : String × Json}

/-- An entry of a level has the value of a parameter and a key of one segment that means nothing
there: it is not the name of a control that the capability offers, nor a filter of the capability,
nor a relation of the resource. -/
structure Unknown (visit : Visit) (entry : String × Json) : Prop where
  mem : entry ∈ visit.params.entries.entries
  isParameter : entry.2.IsParameter
  isSegment : (Key.segments entry.1).length = 1
  notControl : ∀ control : Control, Key.normal entry.1 = control.name →
    visit.capability.offers control = false
  notFilter : visit.capability.filters.contains (Key.normal entry.1) = false
  notRelation : visit.level.resource.relations.contains (Key.normal entry.1) = false

/-- The entries of a level that have a key in common with an entry and the values of parameters. -/
def sharing (visit : Visit) (entry : String × Json) : List (String × Json) :=
  visit.params.entries.entries.filter fun other =>
    Key.normal other.1 = Key.normal entry.1 ∧ (ParamValue.ofJson? other.2).isSome

namespace Unknown

theorem normalSegments_eq (hunknown : visit.Unknown entry) :
    Key.normalSegments entry.1 = [Key.normal entry.1] := by
  obtain ⟨segment, hsegment⟩ := List.length_eq_one_iff.1
    ((Key.length_normalSegments entry.1).trans hunknown.isSegment)
  rw [Key.normal, hsegment, Key.ofSegments_singleton]

theorem point_notMem (hunknown : visit.Unknown entry) : '.' ∉ (Key.normal entry.1).toList := by
  have hmem : Key.normal entry.1 ∈ Key.normalSegments entry.1 := by
    rw [hunknown.normalSegments_eq]
    exact List.mem_cons_self
  exact Key.point_notMem_of_mem_normalSegments hmem

/-- An unknown entry leads to the place that it spells. -/
theorem leadsAt (hunknown : visit.Unknown entry) : visit.LeadsAt (visit.located entry.1) entry :=
  ⟨hunknown.mem, ParamValue.isSome_ofJson?_iff.2 hunknown.isParameter, rfl⟩

/-- An entry is as unknown as another one whose key it shares. -/
theorem of_leadsAt (hunknown : visit.Unknown entry)
    (hleads : visit.LeadsAt (visit.located entry.1) other) : visit.Unknown other := by
  have hkey : Key.normal other.1 = Key.normal entry.1 := located_inj.1 hleads.located
  have hsegments : Key.normalSegments other.1 = Key.normalSegments entry.1 := by
    rw [← Key.segments_normal, ← Key.segments_normal, hkey]
  refine ⟨hleads.mem, ParamValue.isSome_ofJson?_iff.1 hleads.isValue, ?_, ?_, ?_, ?_⟩
  · rw [← Key.length_normalSegments, hsegments, Key.length_normalSegments, hunknown.isSegment]
  · rw [hkey]
    exact hunknown.notControl
  · rw [hkey]
    exact hunknown.notFilter
  · rw [hkey]
    exact hunknown.notRelation

/-- An entry that means nothing is refused. -/
theorem route_eq (hunknown : visit.Unknown entry) :
    visit.route entry.1 entry.2 = .refused ⟨visit.located entry.1, .unknownParameter⟩ := by
  obtain ⟨value, hvalue⟩ := Option.isSome_iff_exists.1
    (ParamValue.isSome_ofJson?_iff.2 hunknown.isParameter)
  have hkeys := hunknown.normalSegments_eq
  have hfilter : Key.normal entry.1 ∉ visit.capability.filters.keys := fun hmem => by
    simpa [hunknown.notFilter] using Table.contains_iff_mem_keys.2 hmem
  have hrelation : Key.normal entry.1 ∉ visit.level.resource.relations.keys := fun hmem => by
    simpa [hunknown.notRelation] using Table.contains_iff_mem_keys.2 hmem
  have hcontrol : Key.normal entry.1 ∉ (Level.controls visit.capability).map Control.name := by
    intro hmem
    obtain ⟨control, hoffered, hname⟩ := List.mem_map.1 hmem
    rw [Level.mem_controls_iff, hunknown.notControl control hname.symm] at hoffered
    cases hoffered
  rw [route, Keys.route, hvalue]
  simp only [Keys.routeParameter, Parameter.ofEntry, Parameter.key, Parameter.firstKey, hkeys,
    Key.ofSegments_singleton, List.headD_cons, List.length_singleton, Level.keys]
  simpa [hfilter, hrelation, Parameter.error, located] using hcontrol

end Unknown

/-- If all entries that lead where one does are refused for what their keys are, a level finds one
error for each of them there. -/
theorem filter_levelErrors_of_refused
    (hrefused : ∀ other, visit.LeadsAt (visit.located entry.1) other →
      visit.route other.1 other.2 = .refused ⟨visit.located other.1, .unknownParameter⟩) :
    (visit.levelErrors catalog).filter (·.isFound (visit.located entry.1)) =
      (visit.sharing entry).map fun other => ⟨visit.located other.1, .unknownParameter⟩ := by
  have hown : (visit.ownErrors catalog).filter (·.isFound (visit.located entry.1)) = [] := by
    refine List.filter_eq_nil_iff.2 fun error herror hfound => ?_
    obtain ⟨hlocated, -, -⟩ := RequestError.isFound_eq_true_iff.1 hfound
    obtain ⟨other, hother, -, hkept⟩ := exists_leadsAt_of_mem_ownErrors herror
    rw [hlocated] at hother
    exact hkept _ (hrefused other hother)
  have hrouted : visit.routed.errors.filter (·.isFound (visit.located entry.1)) =
      (visit.params.entries.entries.filterMap fun other =>
        (visit.route other.1 other.2).error?).filter (·.isFound (visit.located entry.1)) := by
    rw [errors_routed, Route.filter_refusals_eq, List.filterMap_map]
    · rfl
    · intro parameter
      simp [RequestError.isFound, Parameter.error, Problem.isOfValueOrPlace]
  rw [levelErrors, List.filter_append, hown, List.append_nil, hrouted, List.filter_filterMap,
    sharing, ← List.filterMap_eq_map, List.filterMap_filter]
  refine List.filterMap_congr fun other hother => ?_
  by_cases hkey : Key.normal other.1 = Key.normal entry.1
  · cases hvalue : ParamValue.ofJson? other.2 with
    | some value =>
        have hleads : visit.LeadsAt (visit.located entry.1) other :=
          ⟨hother, Option.isSome_iff_exists.2 ⟨value, hvalue⟩, located_inj.2 hkey⟩
        rw [hrefused other hleads]
        simp [Route.error?, hkey, RequestError.isFound, RequestError.isAt, located_inj.2 hkey,
          Problem.isDepth, Problem.isOfValueOrPlace]
    | none =>
        rw [route, Keys.route, hvalue]
        simp [Route.error?, hkey, RequestError.isFound, Problem.isOfValueOrPlace]
  · have hnone : (visit.route other.1 other.2).error?.filter
        (·.isFound (visit.located entry.1)) = none := by
      cases hroute : visit.route other.1 other.2 with
      | refused error =>
          have htrace : error.trace ≠ visit.located entry.1 := by
            rw [(traced_of_route hroute).1]
            exact fun hlocated => hkey (located_inj.1 hlocated)
          simp [Route.error?, Option.filter, RequestError.isFound, RequestError.isAt, htrace]
      | _ => rfl
    rw [hnone]
    simp [hkey]

/-! ## Relations that are too deep -/

theorem Plans.length_le (hplans : visit.Plans catalog depth plan) (hsound : catalog.Sound)
    (hnode : (plan.along? path).isSome) : path.length ≤ depth := by
  induction path generalizing visit depth plan with
  | nil => exact Nat.zero_le depth
  | cons name rest ih =>
      obtain ⟨node, hnode⟩ := Option.isSome_iff_exists.1 hnode
      obtain ⟨sub, hlookup, hsub⟩ := Option.bind_eq_some_iff.1 hnode
      obtain ⟨_, left, full, rfl, -, -, -, hchild, rfl⟩ := hplans.exists_of_lookup hsound hlookup
      obtain ⟨other, hother, -⟩ := Plan.exists_of_along?_withErrors hsub
      exact Nat.succ_le_succ (ih hchild (Option.isSome_iff_exists.2 ⟨other, hother⟩))

/-- Where an entry leads that means nothing, there is no relation that is too deep. -/
theorem Plans.isDepth_of_unknown (hplans : visit.Plans catalog depth plan)
    (hresolve : document.resolve = .ok catalog) (hnode : (plan.along? path).isSome)
    (halong : visit.along? catalog path = some reached)
    (htrace : reached.level.trace = Text.join '.' (visit.level.trace :: path))
    (hunknown : reached.Unknown entry) {error : RequestError} (herror : error ∈ plan.errors)
    (hlocated : error.trace = reached.located entry.1) : error.problem.isDepth = false := by
  have hsound := Document.sound_of_resolve hresolve
  by_contra hdepth
  have hmem : error ∈ plan.errors.filter (·.problem.isDepth) :=
    List.mem_filter.2 ⟨herror, by simpa using hdepth⟩
  rw [hplans.filter_errors hsound, List.mem_flatMap] at hmem
  obtain ⟨⟨other, names⟩, hshown, hmem⟩ := hmem
  obtain ⟨deepest, hdeepest, -⟩ := hplans.shows hresolve hshown
  obtain ⟨hlength, hpoints, name, hname, rfl⟩ := mem_depthErrors hdeepest hmem
  obtain ⟨-, hpath⟩ := point_notMem_of_along? halong (List.ne_nil_of_mem hunknown.mem)
  have hjoin : Text.join '.' (visit.level.trace :: (path ++ [Key.normal entry.1])) =
      Text.join '.' (visit.level.trace :: (other ++ [name])) :=
    calc Text.join '.' (visit.level.trace :: (path ++ [Key.normal entry.1]))
      _ = reached.located entry.1 := by
        rw [Text.join_append_singleton, ← htrace]
        rfl
      _ = Text.join '.' (visit.level.trace :: (other ++ [name])) := hlocated.symm
  obtain ⟨rfl, rfl⟩ := path_of_trace_of_le ((hplans.length_le hsound hnode).trans hlength) hpath
    hpoints hunknown.point_notMem hjoin
  -- So the relation is one of the level of the entry.
  obtain rfl := Option.some.inj (halong.symm.trans hdeepest)
  obtain ⟨hrelation, -⟩ := List.mem_filter.1 hname
  have hcontains : reached.level.resource.relations.contains (Key.normal entry.1) = true :=
    Table.contains_iff_mem_keys.2 hrelation
  rw [hunknown.notRelation] at hcontains
  cases hcontains

/-- Where an entry leads that means nothing, the errors of a plan are one for each entry of the
level that shares its key, apart from those over values and places of entries. -/
theorem Plans.errors_unknown (hplans : visit.Plans catalog depth plan)
    (hresolve : document.resolve = .ok catalog) (hnode : (plan.along? path).isSome)
    (halong : visit.along? catalog path = some reached)
    (htrace : reached.level.trace = Text.join '.' (visit.level.trace :: path))
    (hunknown : reached.Unknown entry) :
    plan.errors.filter (fun error =>
        error.trace = reached.located entry.1 ∧ error.problem.isOfValueOrPlace = false) =
      (reached.sharing entry).map fun other => ⟨reached.located other.1, .unknownParameter⟩ := by
  have hsound := Document.sound_of_resolve hresolve
  have hfound : plan.errors.filter (fun error =>
      error.trace = reached.located entry.1 ∧ error.problem.isOfValueOrPlace = false) =
        plan.errors.filter (·.isFound (reached.located entry.1)) := by
    refine List.filter_congr fun error herror => ?_
    rw [Bool.eq_iff_iff, decide_eq_true_eq, RequestError.isFound_eq_true_iff]
    refine and_congr_right fun hlocated => (and_iff_right ?_).symm
    exact hplans.isDepth_of_unknown hresolve hnode halong htrace hunknown herror hlocated
  rw [hfound, hplans.errors_found hsound hnode halong hunknown.leadsAt
    (by rw [hunknown.route_eq]; rfl),
    filter_levelErrors_of_refused fun other hleads => (hunknown.of_leadsAt hleads).route_eq]

end Visit

end RestQuery
