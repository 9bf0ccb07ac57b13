import RestQuery.Proofs.Plan.Comparison

/-!
# Levels without an entry

An entry that shares its key in normal form with no other, and neither goes to a relation nor
gives the fields, can be taken out of a level: each part of the level without the entry is the
part of the level with it, less what is found where the entry leads.

Main statements: `Visit.Sole.filters_catalog_without`, `Visit.Sole.control?_without` and
`Visit.Sole.errors_without`.
-/

namespace RestQuery

namespace Params

def erase (params : Params) (key : String) : Params := ⟨params.entries.erase key⟩

def only (entry : String × Json) : Params := ⟨.ofList [entry]⟩

variable {entry : String × Json} {trace : String}

theorem traces_only {located : String} :
    (only entry).Traces trace located ↔ located = trace ++ "." ++ Key.normal entry.1 := by
  change (∃ other ∈ [entry], _) ↔ _
  simp

theorem isAt_of_blamed_only {error : RequestError} (hblamed : (only entry).Blamed trace error) :
    error.isAt (trace ++ "." ++ Key.normal entry.1) = true := by
  simp [RequestError.isAt, traces_only.1 hblamed.traced, hblamed.isLocal]

end Params

namespace Visit

variable {document : Document} {catalog : Catalog} {visit : Visit} {entry : String × Json}
  {plan : Plan} {name : String}

/-- Where an entry with a key leads. -/
def located (visit : Visit) (key : String) : String :=
  visit.level.trace ++ "." ++ Key.normal key

/-- Whether a parameter is found elsewhere than where a key leads. -/
def isElsewhere (visit : Visit) (key : String) (parameter : Parameter) : Bool :=
  parameter.trace != visit.located key

/-- An entry that no other one shares its key in normal form with, and that neither goes to a
relation nor gives the fields. -/
structure Sole (visit : Visit) (entry : String × Json) : Prop where
  mem : entry ∈ visit.params.entries.entries
  unshared : ∀ other ∈ visit.params.entries.entries,
    Key.normal other.1 = Key.normal entry.1 → other = entry
  staysHere : ∀ name, (visit.route entry.1 entry.2).leadsTo name = false
  notFields : ∀ parameter, visit.route entry.1 entry.2 = .control parameter →
    parameter.key ≠ Control.fields.name

def without (visit : Visit) (key : String) : Visit := visit.withParams (visit.params.erase key)

theorem level_without (key : String) : (visit.without key).level = visit.level := rfl

theorem capability_without (key : String) :
    (visit.without key).capability = visit.capability := rfl

theorem route_without (key : String) : (visit.without key).route = visit.route := rfl

/-- Two entries lead to one place exactly if their keys have one normal form. -/
theorem located_inj {key other : String} :
    visit.located key = visit.located other ↔ Key.normal key = Key.normal other := by
  rw [located, located, String.append_right_inj]

/-- Nothing else leads to where an unshared entry does. -/
theorem Sole.eq_of_located (hsole : visit.Sole entry) {other : String × Json}
    (hother : other ∈ visit.params.entries.entries)
    (hlocated : visit.located other.1 = visit.located entry.1) : other = entry :=
  hsole.unshared other hother (located_inj.1 hlocated)

/-- What goes to relations does not lead where the entry does. -/
theorem Sole.located_ne (hsole : visit.Sole entry) {other : String × Json}
    (hother : other ∈ visit.params.entries.entries)
    (hleads : (visit.route other.1 other.2).leadsTo name = true) :
    visit.located other.1 ≠ visit.located entry.1 := by
  intro hlocated
  obtain rfl := hsole.eq_of_located hother hlocated
  rw [hsole.staysHere name] at hleads
  cases hleads

theorem Sole.entries_without (hsole : visit.Sole entry) :
    (visit.without entry.1).params.entries.entries =
      visit.params.entries.entries.filter fun other =>
        visit.located other.1 != visit.located entry.1 := by
  refine List.filter_congr fun other hother => ?_
  rw [Bool.eq_iff_iff, Bool.not_eq_true', beq_eq_false_iff_ne, bne_iff_ne]
  refine not_congr ⟨fun hkey => by rw [hkey], fun hlocated => ?_⟩
  rw [hsole.eq_of_located hother hlocated]

/-! ## Where the entries go -/

theorem traced_of_route {other : String × Json} {route : Route}
    (hroute : visit.route other.1 other.2 = route) : route.Traced (visit.located other.1) :=
  hroute ▸ Keys.traced_route _ _ _ _

/-- Without an unshared entry the other filters are left. -/
theorem Sole.filters_without (hsole : visit.Sole entry) :
    (visit.without entry.1).routed.filters =
      visit.routed.filters.filter (visit.isElsewhere entry.1) := by
  rw [filters_routed, filters_routed, route_without, hsole.entries_without]
  refine filterMap_filter _ fun other hother parameter hparameter => ?_
  cases hroute : visit.route other.1 other.2 <;>
    simp [hroute, Route.filter?] at hparameter
  subst hparameter
  rw [isElsewhere, show _ = _ from traced_of_route hroute]

theorem Sole.control?_without (hsole : visit.Sole entry) (control : Control) :
    (visit.without entry.1).routed.control? control =
      (visit.routed.control? control).filter (visit.isElsewhere entry.1) := by
  have htrace : ∀ {other : String × Json} {parameter : Parameter},
      (visit.route other.1 other.2).control? = some parameter →
        parameter.trace = visit.located other.1 :=
    fun hcontrol => (Keys.key_of_control? hcontrol).2
  rw [control?_routed, control?_routed, route_without, hsole.entries_without,
    filterMap_filter (visit.isElsewhere entry.1)]
  · -- All parameters for the control have the same key, and so the same trace.
    refine find?_filter (visit.level.trace ++ "." ++ control.name != visit.located entry.1)
      fun parameter hmem hkey => ?_
    obtain ⟨other, -, hcontrol⟩ := List.mem_filterMap.1 hmem
    rw [isElsewhere, htrace hcontrol, located, ← (Keys.key_of_control? hcontrol).1,
      beq_iff_eq.1 hkey]
  · intro other _ parameter hcontrol
    rw [isElsewhere, htrace hcontrol]

/-- Relations are not concerned by an entry that goes to none. -/
theorem Sole.getD_relations_without (hsole : visit.Sole entry) (name : String) :
    ((visit.without entry.1).routed.relations.get? name).getD {} =
      (visit.routed.relations.get? name).getD {} := by
  rw [getD_relations_routed, getD_relations_routed, route_without, hsole.entries_without,
    List.filterMap_filter]
  congr 2
  refine List.filterMap_congr fun other hother => ?_
  split
  next => rfl
  next hhere =>
    have hnone : (visit.route other.1 other.2).rest? name = none := by
      rw [← Option.not_isSome_iff_eq_none, Route.isSome_rest?]
      exact fun hleads => hhere (bne_iff_ne.2 (hsole.located_ne hother hleads))
    rw [hnone]
    rfl

theorem Sole.nests_without (hsole : visit.Sole entry) (name : String) :
    (visit.without entry.1).nests name = visit.nests name := by
  rw [nests, hsole.entries_without, nests, Bool.eq_iff_iff, List.any_eq_true, List.any_eq_true]
  refine exists_congr fun other => ?_
  rw [List.mem_filter, and_assoc]
  refine and_congr_right fun hother => and_iff_right_of_imp fun hleads => ?_
  exact bne_iff_ne.2 (hsole.located_ne hother hleads)

/-- The errors of others are reported as before. -/
theorem Sole.errors_without (hsole : visit.Sole entry) :
    (visit.without entry.1).routed.errors =
      visit.routed.errors.filter (!·.isAt (visit.located entry.1)) := by
  let kept (route : Route) : Bool := route.trace != visit.located entry.1
  have htrace : ∀ other : String × Json,
      (visit.route other.1 other.2).trace = visit.located other.1 :=
    fun _ => (traced_of_route rfl).trace_eq
  have hroutes : (visit.without entry.1).params.entries.entries.map
      (fun other => visit.route other.1 other.2) =
        (visit.params.entries.entries.map fun other => visit.route other.1 other.2).filter
          kept := by
    rw [hsole.entries_without, List.filter_map]
    congr 1
    refine List.filter_congr fun other _ => ?_
    simp only [kept, Function.comp_apply, htrace]
  rw [errors_routed, errors_routed, route_without, hroutes,
    ← Route.filter_refusals kept fun _ _ _ _ _ => Iff.rfl, List.filter_map]
  · congr 1
    refine List.filter_congr fun refusal hrefusal => ?_
    obtain ⟨before, after, hsplit, herror⟩ := Route.exists_of_mem_refusals hrefusal
    obtain ⟨other, -, hother⟩ :=
      List.mem_map.1 (hsplit ▸ List.mem_append_right before List.mem_cons_self)
    have htraced : refusal.1.Traced (visit.located other.1) := traced_of_route hother
    simp only [kept, Function.comp_apply, htraced.trace_eq,
      RequestError.not_isAt (htraced.isAt herror)]
  · -- Entries that take one place have one key in normal form.
    simp only [List.forall_mem_map]
    intro first _ second _ hfirst hsecond place hplace hsame
    have hnormal : Key.normal first.1 = Key.normal second.1 :=
      (Keys.normal_of_place? hplace).trans (Keys.normal_of_place? hsame).symm
    simp only [kept, htrace] at hfirst hsecond
    rw [located_inj.2 hnormal, hsecond] at hfirst
    cases hfirst

/-! ## What the entries give -/

/-- A computation that blames a parameter fails with errors that are found where it leads. -/
theorem not_isAt_of_blames {other : String × Json} {parameter : Parameter}
    {outcome : Except RequestError α} (htrace : parameter.trace = visit.located other.1)
    (hblames : Blames (.only other) visit.level.trace outcome) {error : RequestError}
    (herror : outcome = .error error) (key : String) :
    (!error.isAt (visit.located key)) = visit.isElsewhere key parameter := by
  rw [isElsewhere, htrace]
  exact RequestError.not_isAt (Params.isAt_of_blamed_only (hblames error herror))

theorem traces_only {other : String × Json} {parameter : Parameter}
    (htrace : parameter.trace = visit.located other.1) :
    (Params.only other).Traces visit.level.trace parameter.trace :=
  Params.traces_only.2 htrace

theorem exists_of_mem_control? {control : Control} {parameter : Parameter}
    (hgiven : parameter ∈ visit.routed.control? control) :
    parameter.key = control.name ∧ ∃ other ∈ visit.params.entries.entries,
      visit.route other.1 other.2 = .control parameter ∧
        parameter.trace = visit.located other.1 := by
  obtain ⟨hkey, other, hother, hroute⟩ := (visit.params.route_stems _ _).controls hgiven
  exact ⟨hkey, other, hother, hroute, traced_of_route hroute⟩

/-- Every filter has an entry, which its trace locates. -/
theorem exists_of_mem_filters {parameter : Parameter} (hmem : parameter ∈ visit.routed.filters) :
    ∃ other ∈ visit.params.entries.entries, visit.route other.1 other.2 = .filter parameter ∧
      parameter.trace = visit.located other.1 := by
  obtain ⟨other, hother, hroute⟩ := (visit.params.route_stems _ _).filters parameter hmem
  exact ⟨other, hother, hroute, traced_of_route hroute⟩

theorem exists_of_mem_filters_catalog {filter : Level.Filter}
    (hfilter : filter ∈ visit.filters catalog) :
    visit.level.filter catalog visit.capability filter.parameter = .ok filter ∧
      ∃ other ∈ visit.params.entries.entries,
        visit.route other.1 other.2 = .filter filter.parameter ∧
          filter.parameter.trace = visit.located other.1 := by
  obtain ⟨parameter, hparameter, hread⟩ := List.mem_filterMap.1 hfilter
  have hok := toOption_eq_some_iff.1 hread
  obtain rfl := Level.parameter_of_filter hok
  exact ⟨hok, exists_of_mem_filters hparameter⟩

theorem Sole.filters_catalog_without (hsole : visit.Sole entry) :
    (visit.without entry.1).filters catalog =
      (visit.filters catalog).filter fun filter => visit.isElsewhere entry.1 filter.parameter := by
  rw [filters, filters, hsole.filters_without]
  refine filterMap_filter _ fun parameter hparameter filter hfilter => ?_
  rw [Level.parameter_of_filter (toOption_eq_some_iff.1 hfilter)]

theorem Sole.unknown_without (hsole : visit.Sole entry) :
    (visit.without entry.1).routed.filters.filterMap (fun parameter =>
        failure? (visit.level.filter catalog visit.capability parameter)) =
      (visit.routed.filters.filterMap fun parameter =>
        failure? (visit.level.filter catalog visit.capability parameter)).filter
          (!·.isAt (visit.located entry.1)) := by
  rw [hsole.filters_without]
  refine filterMap_filter _ fun parameter hparameter error herror => ?_
  obtain ⟨other, -, -, htrace⟩ := exists_of_mem_filters hparameter
  exact not_isAt_of_blames htrace (Level.blames_filter (traces_only htrace))
    (failure?_eq_some_iff.1 herror) entry.1

theorem blamed_of_mem_errors {filter : Level.Filter} {other : String × Json}
    (htrace : filter.parameter.trace = visit.located other.1) {error : RequestError}
    (herror : error ∈ filter.errors) : (Params.only other).Blamed visit.level.trace error := by
  have hempty : ∀ error ∈ ({} : Level.Applied).errors,
      (Params.only other).Blamed visit.level.trace error := nofun
  have hmem : error ∈ (({} : Level.Applied).add filter).errors := by
    rwa [Level.Applied.errors_add]
  exact Level.Applied.blamed_of_mem_add hempty (traces_only htrace) error hmem

theorem Sole.flatMap_errors_without (hsole : visit.Sole entry) :
    ((visit.without entry.1).filters catalog).flatMap Level.Filter.errors =
      ((visit.filters catalog).flatMap Level.Filter.errors).filter
        (!·.isAt (visit.located entry.1)) := by
  rw [hsole.filters_catalog_without]
  refine flatMap_filter _ fun filter hfilter error herror => ?_
  obtain ⟨-, other, -, -, htrace⟩ := exists_of_mem_filters_catalog hfilter
  rw [isElsewhere, htrace]
  exact RequestError.not_isAt (Params.isAt_of_blamed_only (blamed_of_mem_errors htrace herror))

theorem Sole.control?_fields_without (hsole : visit.Sole entry) :
    (visit.without entry.1).routed.control? .fields = visit.routed.control? .fields := by
  rw [hsole.control?_without]
  cases hgiven : visit.routed.control? .fields with
  | none => rfl
  | some parameter =>
      obtain ⟨hkey, other, hother, hroute, htrace⟩ := exists_of_mem_control? hgiven
      refine Option.filter_some_pos (bne_iff_ne.2 fun hlocated => ?_)
      obtain rfl := hsole.eq_of_located hother (htrace.symm.trans hlocated)
      exact hsole.notFields parameter hroute hkey

theorem Sole.level_projection_without (hsole : visit.Sole entry) :
    visit.level.projection visit.capability (visit.without entry.1).routed =
      visit.level.projection visit.capability visit.routed := by
  rw [Level.projection, Level.projection, hsole.control?_fields_without]

/-- The projection is not concerned by an entry that does not give the fields. -/
theorem Sole.projection_without (hsole : visit.Sole entry) :
    (visit.without entry.1).projection = visit.projection :=
  congrArg Prod.fst hsole.level_projection_without

theorem Sole.filter_projection (hsole : visit.Sole entry) :
    (visit.level.projection visit.capability visit.routed).2.2.filter
        (!·.isAt (visit.located entry.1)) =
      (visit.level.projection visit.capability visit.routed).2.2 := by
  refine List.filter_eq_self.2 fun error herror => ?_
  cases hgiven : visit.routed.control? .fields with
  | none =>
      rw [Level.projection, hgiven] at herror
      cases herror
  | some parameter =>
      obtain ⟨hkey, other, hother, hroute, htrace⟩ := exists_of_mem_control? hgiven
      have hfields : ∀ given, visit.routed.control? .fields = some given →
          (Params.only other).Traces visit.level.trace given.trace := by
        intro given hsome
        rw [hgiven] at hsome
        exact Option.some.inj hsome ▸ traces_only htrace
      have hblamed := Level.blamed_of_mem_projection hfields error herror
      rw [RequestError.not_isAt (Params.isAt_of_blamed_only hblamed), bne_iff_ne]
      intro hlocated
      obtain rfl := hsole.eq_of_located hother hlocated
      exact hsole.notFields parameter hroute hkey

end Visit

end RestQuery
