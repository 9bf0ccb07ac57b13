import Mathlib.Data.List.Pairwise
import RestQuery.Proofs.Plan.Effects
import RestQuery.Proofs.Request.Insertion
import RestQuery.Proofs.Request.Spellings

/-!
# Keys in two spellings

Two spellings of one key go the same way.  At a control they meet, and the later one is refused;
below a relation they meet if the rests of both are written alike, and else go on together.  A
filter is not taken by a parameter, so two spellings of its key are both kept.

Main statement: `Document.collision_reported`.
-/

namespace RestQuery

namespace Route

/-- Two entries do not take one place. -/
def Apart (route other : Route) : Prop :=
  ∀ place, route.place? = some place → other.place? ≠ some place

instance : Std.Symm Apart :=
  ⟨fun _ _ hapart place hplace hother => hapart place hother hplace⟩

variable {route other : Route} {routes : List Route} {taken : List Place} {place : Place}

/-- An entry that is kept found its place free. -/
theorem notMem_of_refusal? (hkept : route.refusal? taken = none)
    (hplace : route.place? = some place) : place ∉ taken := by
  cases route with
  | filter parameter => cases hplace
  | control parameter =>
      obtain rfl := Option.some.inj hplace
      simpa [refusal?] using hkept
  | relation name rest parameter =>
      obtain rfl := Option.some.inj hplace
      simpa [refusal?] using hkept
  | refused error => cases hplace

/-- Where no entry is refused, no two take one place and none takes one that is taken before. -/
theorem apart_of_refusals (hnone : refusals taken routes = []) :
    routes.Pairwise Apart ∧
      ∀ route ∈ routes, ∀ place, route.place? = some place → place ∉ taken := by
  induction routes generalizing taken with
  | nil => exact ⟨.nil, nofun⟩
  | cons route rest ih =>
      rw [refusals, List.append_eq_nil_iff, List.map_eq_nil_iff, Option.toList_eq_nil_iff] at hnone
      obtain ⟨hkept, hrest⟩ := hnone
      obtain ⟨hpairwise, hfree⟩ := ih hrest
      refine ⟨.cons (fun other hother place hplace hsame => ?_) hpairwise,
        List.forall_mem_cons.2 ⟨fun place => notMem_of_refusal? hkept, fun other hother place
          hplace htaken => hfree other hother place hplace (List.mem_append_left _ htaken)⟩⟩
      exact hfree other hother place hsame
        (List.mem_append_right _ (Option.mem_toList.2 hplace))

end Route

/-- At a level without refusals no two entries take one place. -/
theorem Params.apart_route {params : Params} {keys : Keys} {trace : String}
    (hvalid : (params.route keys trace).errors = []) {entry other : String × Json}
    (hentry : entry ∈ params.entries.entries) (hother : other ∈ params.entries.entries)
    (hne : entry ≠ other) :
    (keys.route trace entry.1 entry.2).Apart (keys.route trace other.1 other.2) := by
  rw [errors_route, List.map_eq_nil_iff] at hvalid
  have hapart := List.pairwise_map.1 (Route.apart_of_refusals hvalid).1
  have hsymm : Std.Symm fun entry other : String × Json =>
      (keys.route trace entry.1 entry.2).Apart (keys.route trace other.1 other.2) :=
    ⟨fun _ _ => Std.Symm.symm _ _⟩
  exact hapart.forall hentry hother hne

/-! ## Spellings of one key -/

theorem Parameter.keys_of_bare {first second : Parameter} (hbare : first.bare = second.bare) :
    first.keys = second.keys :=
  congrArg (·.keys) hbare

/-- Two entries go the same way, up to the spelling of the rests of their keys. -/
inductive Route.Alike : Route → Route → Prop
  | filter {first second : Parameter} (hkeys : first.keys = second.keys) :
      Alike (.filter first) (.filter second)
  | control {first second : Parameter} (hkeys : first.keys = second.keys) :
      Alike (.control first) (.control second)
  | relation {name rest more : String} {first second : Parameter}
      (hrest : Key.normal rest = Key.normal more) :
      Alike (.relation name rest first) (.relation name more second)
  | refused {error : RequestError} : Alike (.refused error) (.refused error)

theorem Route.alike_withValue {route other : Route} (hbare : route.bare = other.bare)
    (rawValue : ParamValue) : route.Alike (other.withValue rawValue) := by
  cases route with
  | filter first =>
      cases other with
      | filter second =>
          have hkeys : first.keys = second.keys := Parameter.keys_of_bare (Route.filter.inj hbare)
          exact .filter hkeys
      | _ => cases hbare
  | control first =>
      cases other with
      | control second =>
          have hkeys : first.keys = second.keys := Parameter.keys_of_bare (Route.control.inj hbare)
          exact .control hkeys
      | _ => cases hbare
  | relation name rest first =>
      cases other with
      | relation target more second =>
          obtain ⟨rfl, hrest, -⟩ := Route.relation.inj hbare
          exact .relation hrest
      | _ => cases hbare
  | refused error =>
      cases other with
      | refused problem =>
          obtain rfl := Route.refused.inj hbare
          exact .refused
      | _ => cases hbare

namespace Visit

variable {document : Document} {catalog : Catalog} {visit child : Visit} {depth : Nat}
  {plan : Plan} {entry : String} {key other : String} {value second : Json}

/-- Entries for one key go the same way at a level. -/
theorem alike_route (visit : Visit) (hnormal : Key.normal key = Key.normal other)
    (hvalue : (ParamValue.ofJson? value).isSome) (hsecond : (ParamValue.ofJson? second).isSome) :
    (visit.route key value).Alike (visit.route other second) := by
  obtain ⟨rawValue, hroute⟩ : ∃ rawValue,
      visit.route other second = (visit.route other value).withValue rawValue :=
    Keys.exists_route_eq_withValue hsecond hvalue
  rw [hroute]
  exact Route.alike_withValue (Keys.bare_route hnormal value) rawValue

/-- Two parameters of a level are given for one declared filter, and the node holds what each of
them means. -/
structure Honours (catalog : Catalog) (visit : Visit) (node : Plan) (segments : List String)
    (value other : ParamValue) : Prop where
  declared : visit.capability.filters.contains (visit.filterKey segments) = true
  given : ∃ first ∈ visit.routed.filters, ∃ second ∈ visit.routed.filters,
    first.rawKey ≠ second.rawKey ∧ first.key = visit.filterKey segments ∧
      second.key = visit.filterKey segments ∧ first.value = value ∧ second.value = other
  first : visit.Effect catalog node False value segments
  second : visit.Effect catalog node False other segments

/-- A filter that an entry becomes has the key and the value of the entry. -/
theorem filter_of_route {parameter : Parameter}
    (hroute : visit.route key value = .filter parameter) :
    ∃ given, ParamValue.ofJson? value = some given ∧ parameter.rawKey = key ∧
      parameter.value = given.trimmed ∧
      parameter.key = visit.filterKey (Key.normalSegments key) := by
  obtain ⟨given, hgiven, hparameter⟩ := Keys.exists_value_of_route hroute nofun
  obtain rfl := Keys.filter_of_routeParameter hparameter
  exact ⟨given, hgiven, rfl, rfl, rfl⟩

/-- Two spellings that are a filter are both kept. -/
theorem honours_of_route {depthErrors : List RequestError} {relations : List (String × Plan)}
    (hvalid : (visit.planOf catalog entry depthErrors relations).errors = [])
    (hentry : (key, value) ∈ visit.params.entries.entries)
    (hother : (other, second) ∈ visit.params.entries.entries) (hne : key ≠ other)
    (hnormal : Key.normal key = Key.normal other) {parameter kept : Parameter}
    (hroute : visit.route key value = .filter parameter)
    (hagain : visit.route other second = .filter kept) :
    ∃ given more, ParamValue.ofJson? value = some given ∧
      ParamValue.ofJson? second = some more ∧
      visit.Honours catalog (visit.planOf catalog entry depthErrors relations)
        (Key.normalSegments key) given.trimmed more.trimmed := by
  obtain ⟨hlevel, -, happly, -⟩ := errors_planOf hvalid
  have hsegments : Key.normalSegments other = Key.normalSegments key := by
    rw [← Key.segments_normal, ← hnormal, Key.segments_normal]
  obtain ⟨given, hgiven, hraw, hvalue, hkey⟩ := filter_of_route hroute
  obtain ⟨more, hmore, hrawOther, hvalueOther, hkeyOther⟩ := filter_of_route hagain
  rw [hsegments] at hkeyOther
  have hmem : parameter ∈ visit.routed.filters := by
    have hkeeps := keeps_route hlevel hentry
    rwa [hroute] at hkeeps
  have hmemOther : kept ∈ visit.routed.filters := by
    have hkeeps := keeps_route hlevel hother
    rwa [hagain] at hkeeps
  refine ⟨given, more, hgiven, hmore, ?_, ⟨parameter, hmem, kept, hmemOther, ?_⟩, ?_, ?_⟩
  · rw [← hkey, Table.contains_iff_mem_keys]
    exact Params.mem_filters_of_mem_route hmem
  · exact ⟨by rwa [hraw, hrawOther], hkey, hkeyOther, hvalue, hvalueOther⟩
  · rw [← hvalue]
    exact effect_filter hlevel happly hmem hkey
  · rw [← hvalueOther]
    exact effect_filter hlevel happly hmemOther hkeyOther

theorem Plans.exists_planOf (hplans : visit.Plans catalog depth plan)
    (hsound : catalog.Sound) :
    ∃ entry depthErrors relations, plan = visit.planOf catalog entry depthErrors relations := by
  cases depth with
  | zero =>
      obtain ⟨entry, rfl⟩ := hplans.eq_deepest
      exact ⟨entry, _, _, rfl⟩
  | succ depth =>
      obtain ⟨relations, -, -, entry, rfl⟩ := hplans.exists_below hsound
      exact ⟨entry, _, _, rfl⟩

/-- In a plan without errors two spellings of one key are a filter of the level, or the rests of
both, spelled differently, go to one relation. -/
theorem Plans.honours_or_follows (hplans : visit.Plans catalog depth plan)
    (hresolve : document.resolve = .ok catalog) (hvalid : plan.errors = [])
    (hentry : (key, value) ∈ visit.params.entries.entries)
    (hother : (other, second) ∈ visit.params.entries.entries) (hne : key ≠ other)
    (hnormal : Key.normal key = Key.normal other) :
    (∃ given more, ParamValue.ofJson? value = some given ∧
      ParamValue.ofJson? second = some more ∧
      visit.Honours catalog plan (Key.normalSegments key) given.trimmed more.trimmed) ∨
    ∃ name rest more parameter given,
      visit.route key value = .relation name rest parameter ∧
      visit.route other second = .relation name more given ∧
      rest ≠ more ∧ Key.normal rest = Key.normal more := by
  obtain ⟨entry, depthErrors, relations, rfl⟩ :=
    hplans.exists_planOf (Document.sound_of_resolve hresolve)
  obtain ⟨hlevel, -, -, -⟩ := errors_planOf hvalid
  have husable : ∀ {key value}, (key, value) ∈ visit.params.entries.entries →
      (ParamValue.ofJson? value).isSome := by
    intro key value hmem
    have hkeeps := keeps_route hlevel hmem
    obtain ⟨given, hgiven, -⟩ := Keys.exists_value_of_route rfl fun error hrefused => by
      rw [route, hrefused] at hkeeps
      exact hkeeps
    rw [hgiven, Option.isSome_some]
  have hapart : (visit.route key value).Apart (visit.route other second) :=
    Params.apart_route hlevel.routed hentry hother fun hsame => hne (congrArg Prod.fst hsame)
  have hkeeps := keeps_route hlevel hentry
  have halike := visit.alike_route hnormal (husable hentry) (husable hother)
  generalize hroute : visit.route key value = way at hapart hkeeps halike
  generalize hagain : visit.route other second = again at hapart halike
  cases halike with
  | filter hkeys =>
      exact .inl (honours_of_route hvalid hentry hother hne hnormal hroute hagain)
  | @control parameter given hkeys =>
      have hsame : parameter.key = given.key := congrArg Key.ofSegments hkeys
      exact absurd (congrArg (some ∘ Place.control) hsame.symm) (hapart _ rfl)
  | @relation name rest more parameter given hrest =>
      refine .inr ⟨name, rest, more, parameter, given, rfl, rfl, ?_, hrest⟩
      rintro rfl
      exact hapart _ rfl rfl
  | refused => exact hkeeps.elim

/-- At the greatest depth no entry of a plan without errors goes on. -/
theorem Plans.not_nests (hplans : visit.Plans catalog 0 plan)
    (hresolve : document.resolve = .ok catalog) (hvalid : plan.errors = []) {name : String} :
    ¬visit.nests name = true := by
  intro hnests
  have hasked : name ∈ visit.asked := (hplans.mem_asked hresolve).2 (.inl hnests)
  obtain ⟨entry, rfl⟩ := hplans.eq_deepest
  obtain ⟨-, hnone, -, -⟩ := errors_planOf hvalid
  rw [List.map_eq_nil_iff] at hnone
  rw [hnone] at hasked
  cases hasked

/-- In a plan without errors two spellings of one key lead to one level, where both are kept for
one filter. -/
theorem Plans.exists_honours (hplans : visit.Plans catalog depth plan)
    (hresolve : document.resolve = .ok catalog) (hvalid : plan.errors = [])
    (hentry : (key, value) ∈ visit.params.entries.entries)
    (hother : (other, second) ∈ visit.params.entries.entries) (hne : key ≠ other)
    (hnormal : Key.normal key = Key.normal other) :
    ∃ path rest reached node given more, Key.normalSegments key = path ++ rest ∧
      visit.along? catalog path = some reached ∧ plan.along? path = some node ∧
      ParamValue.ofJson? value = some given ∧ ParamValue.ofJson? second = some more ∧
      reached.Honours catalog node rest given.trimmed more.trimmed := by
  induction depth generalizing visit plan key other with
  | zero =>
      rcases hplans.honours_or_follows hresolve hvalid hentry hother hne hnormal with
        ⟨given, more, hgiven, hmore, hhonours⟩ | ⟨name, rest, -, parameter, -, hroute, -⟩
      · exact ⟨[], _, visit, plan, given, more, rfl, rfl, rfl, hgiven, hmore, hhonours⟩
      · exact absurd (nests_iff.2 ⟨_, hentry, _, _, hroute⟩) (hplans.not_nests hresolve hvalid)
  | succ depth ih =>
      rcases hplans.honours_or_follows hresolve hvalid hentry hother hne hnormal with
        ⟨given, more, hgiven, hmore, hhonours⟩ |
        ⟨name, rest, others, parameter, again, hroute, hagain, hapart, hrest⟩
      · exact ⟨[], _, visit, plan, given, more, rfl, rfl, rfl, hgiven, hmore, hhonours⟩
      · -- Both rests are entries of the one visit below, in two spellings again.
        obtain ⟨child, sub, hchild, hsub, hlookup, hnone, hbelow⟩ :=
          hplans.exists_relation hresolve hvalid hentry hroute
        obtain ⟨twin, _, htwin, -, -, -, hbeside⟩ :=
          hplans.exists_relation hresolve hvalid hother hagain
        obtain rfl := Option.some.inj (hchild.symm.trans htwin)
        obtain ⟨path, segments, reached, node, given, more, hsegments, halong, hnode, hgiven,
          hmore, hhonours⟩ := ih hsub hnone hbelow hbeside hapart hrest
        refine ⟨name :: path, segments, reached, node, given, more, ?_, ?_, ?_, hgiven, hmore,
          hhonours⟩
        · rw [Keys.normalSegments_of_route hroute, hsegments, List.cons_append]
        · rw [along?, hchild, Option.bind_some, halong]
        · rw [Plan.along?, hlookup, Option.bind_some, hnode]

end Visit

/-- Of two entries with one key in normal form, an error is reported, unless the key leads to a
level where it is a declared filter.  Both parameters are filters of that level then, and its node
holds what both of them mean. -/
theorem Document.collision_reported {document : Document} {catalog : Catalog}
    (hresolve : document.resolve = .ok catalog) {resource : String} {target : Target}
    {params : Params} {plan : Plan} (hplan : catalog.plan resource target params = .ok plan)
    {key other : String} {value second : Json} (hentry : (key, value) ∈ params.entries.entries)
    (hother : (other, second) ∈ params.entries.entries) (hne : key ≠ other)
    (hnormal : Key.normal key = Key.normal other) :
    plan.errors ≠ [] ∨
      ∃ path rest visit node given more, Key.segments (Key.normal key) = path ++ rest ∧
        catalog.visit? resource target params path = some visit ∧
        plan.along? path = some node ∧ ParamValue.ofJson? value = some given ∧
        ParamValue.ofJson? second = some more ∧
        visit.Honours catalog node rest given.trimmed more.trimmed := by
  by_cases hvalid : plan.errors = []
  · obtain ⟨root, hplans, rfl, -, hvisit⟩ :=
      (sound_of_resolve hresolve).exists_visit hplan
    obtain ⟨path, rest, visit, node, given, more, hsegments, halong, hhonours⟩ :=
      hplans.exists_honours hresolve hvalid hentry hother hne hnormal
    rw [← Key.segments_normal] at hsegments
    rw [← hvisit] at halong
    exact .inr ⟨path, rest, visit, node, given, more, hsegments, halong, hhonours⟩
  · exact .inl hvalid

namespace Sample

/-- The names of areas, with the key of the filter in two spellings. -/
def twoNames : Params := ⟨.ofList [("NAME", .string "~hut"), ("name", .string "~lake")]⟩

def twoNamesPlan : Plan := (catalog.plan "area" .list twoNames).toOption.getD default

/-- The name of the area of a cabin, in two spellings. -/
def twoAreas : Params := ⟨.ofList [("area.NAME", .string "~hut"), ("AREA.name", .string "~lake")]⟩

def twoAreasPlan : Plan := (catalog.plan "cabin" .list twoAreas).toOption.getD default

end Sample

/-- Both spellings of the filter for the areas of cabins are kept. -/
theorem collision_reported_areas :
    ∃ path rest visit node given more, Key.segments (Key.normal "area.NAME") = path ++ rest ∧
      Sample.catalog.visit? "cabin" .list Sample.twoAreas path = some visit ∧
      Sample.twoAreasPlan.along? path = some node ∧
      ParamValue.ofJson? (.string "~hut") = some given ∧
      ParamValue.ofJson? (.string "~lake") = some more ∧
      visit.Honours Sample.catalog node rest given.trimmed more.trimmed := by
  have hplan : Sample.catalog.plan "cabin" .list Sample.twoAreas = .ok Sample.twoAreasPlan :=
    eq_ok_of_isOk default (by decide +kernel)
  have hvalid : Sample.twoAreasPlan.errors = [] := by decide +kernel
  have hentry : ("area.NAME", .string "~hut") ∈ Sample.twoAreas.entries.entries :=
    List.mem_cons_of_mem _ List.mem_cons_self
  have hother : ("AREA.name", .string "~lake") ∈ Sample.twoAreas.entries.entries :=
    List.mem_cons_self
  have hnormal : Key.normal "area.NAME" = Key.normal "AREA.name" := by decide +kernel
  have hreported := Document.collision_reported Sample.resolve_document hplan hentry hother
    (by decide) hnormal
  exact hreported.resolve_left fun hsome => hsome hvalid

/-- Two spellings of a filter are in a plan that has no errors. -/
theorem collision_reported_names :
    ("NAME", Json.string "~hut") ∈ Sample.twoNames.entries.entries ∧
      ("name", Json.string "~lake") ∈ Sample.twoNames.entries.entries ∧
      Key.normal "NAME" = Key.normal "name" ∧
      Sample.catalog.plan "area" .list Sample.twoNames = .ok Sample.twoNamesPlan ∧
      Sample.twoNamesPlan.errors = [] ∧ Sample.twoNamesPlan.filters.length = 2 := by
  have hplan : (Sample.catalog.plan "area" .list Sample.twoNames).isOk = true := by decide +kernel
  have hnormal : Key.normal "NAME" = Key.normal "name" := by decide +kernel
  have hvalid : Sample.twoNamesPlan.errors = [] ∧ Sample.twoNamesPlan.filters.length = 2 := by
    decide +kernel
  exact ⟨List.mem_cons_self, List.mem_cons_of_mem _ List.mem_cons_self, hnormal,
    eq_ok_of_isOk _ hplan, hvalid⟩

end RestQuery
