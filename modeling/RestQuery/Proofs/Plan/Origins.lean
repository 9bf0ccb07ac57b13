import RestQuery.Proofs.Plan.Depth
import RestQuery.Proofs.Request.Parts

/-!
# Where errors come from

The errors of all levels are those of the root.  Each of them is found where an entry of the
request leads: the trace is the name of the resource and the key of the entry in normal form,
however the key is spelled.  Only an error about depth lies above where an entry leads, or beside
the value for fields that names the relation.

Main statement: `Document.errors_explained`.
-/

namespace RestQuery

/-- What leads to a place explains an error of a plan: the error is found there or, if it is about
depth, on the way there, or the place is that of the fields of the level with the relation. -/
inductive Plan.Explains (plan : Plan) (trace located : String) (error : RequestError) : Prop
  | here (hlocal : error.problem.isDepth = false) (htrace : error.trace = located)
  | beyond {rest : String} (hdepth : error.problem.isDepth = true)
      (hlocated : located = error.trace ++ "." ++ rest)
  | fields {path names : List String} {name : String} (hdepth : error.problem.isDepth = true)
      (hnode : (path, names) ∈ plan.outline)
      (htrace : error.trace = Text.join '.' (trace :: (path ++ [name])))
      (hlocated : located = Text.join '.' (trace :: (path ++ [Control.fields.name])))

namespace Visit

variable {document : Document} {catalog : Catalog} {visit child : Visit} {depth : Nat}
  {plan : Plan} {name : String}

/-! ## Entries of levels below -/

/-- The entries of the visit below are those of the level that go there. -/
theorem params_below (hbelow : visit.below? catalog name = some child) :
    child.params = ⟨.ofList (visit.params.entries.entries.filterMap fun entry =>
      ((visit.route entry.1 entry.2).rest? name).map (·, entry.2))⟩ := by
  obtain ⟨-, -, -, hparams, -⟩ := below?_eq_some_iff.1 hbelow
  rw [hparams]
  exact visit.params.getD_relations_route _ _ name

/-- Every entry of a level below comes from one of this level that goes there. -/
theorem exists_route_of_mem_below (hbelow : visit.below? catalog name = some child)
    {rest : String} {value : Json} (hmem : (rest, value) ∈ child.params.entries.entries) :
    ∃ key parameter, (key, value) ∈ visit.params.entries.entries ∧
      visit.route key value = .relation name rest parameter := by
  rw [params_below hbelow] at hmem
  have hnested := Table.mem_of_get?_ofList (Table.get?_eq_some_iff.2 hmem)
  obtain ⟨⟨key, given⟩, hentry, hrest⟩ := List.mem_filterMap.1 hnested
  obtain ⟨other, hother, heq⟩ := Option.map_eq_some_iff.1 hrest
  obtain ⟨rfl, rfl⟩ := Prod.mk.inj heq
  obtain ⟨parameter, hroute⟩ := Route.rest?_eq_some_iff.1 hother
  exact ⟨key, parameter, hentry, hroute⟩

/-- An entry below is found where the entry leads that it comes from. -/
theorem exists_located_of_mem_below (hbelow : visit.below? catalog name = some child)
    (htrace : child.level.trace = visit.level.trace ++ "." ++ name) {entry : String × Json}
    (hmem : entry ∈ child.params.entries.entries) :
    ∃ source ∈ visit.params.entries.entries,
      (visit.route source.1 source.2).leadsTo name = true ∧
        child.level.trace ++ "." ++ Key.normal entry.1 =
          visit.level.trace ++ "." ++ Key.normal source.1 := by
  obtain ⟨key, parameter, hsource, hroute⟩ := exists_route_of_mem_below hbelow hmem
  refine ⟨(key, entry.2), hsource, by simp [hroute, Route.leadsTo], ?_⟩
  rw [htrace, Keys.normal_of_route hroute]
  simp only [String.append_assoc]

/-! ## Errors of a plan -/

/-- An entry that is to blame for an error explains it. -/
theorem explains_of_blamed {error : RequestError}
    (hblamed : visit.params.Blamed visit.level.trace error) :
    ∃ entry ∈ visit.params.entries.entries, plan.Explains visit.level.trace
      (visit.level.trace ++ "." ++ Key.normal entry.1) error := by
  obtain ⟨⟨entry, hentry, htrace⟩, hlocal⟩ := hblamed
  exact ⟨entry, hentry, .here hlocal htrace⟩

/-- Whoever asks for a relation below the greatest depth does so by an entry that goes there, or
by the value for fields. -/
theorem explains_of_mem_asked (hasked : name ∈ visit.asked) :
    ∃ entry ∈ visit.params.entries.entries, plan.Explains visit.level.trace
      (visit.level.trace ++ "." ++ Key.normal entry.1)
      ⟨visit.level.trace ++ "." ++ name, .tooDeep maxDepth⟩ := by
  obtain ⟨-, hasked⟩ := List.mem_filter.1 hasked
  rw [Bool.or_eq_true, Bool.and_eq_true] at hasked
  rcases hasked with hnests | ⟨hnames, -⟩
  · obtain ⟨entry, hentry, rest, parameter, hroute⟩ := nests_iff.1 hnests
    have hlocated : visit.level.trace ++ "." ++ Key.normal entry.1 =
        visit.level.trace ++ "." ++ name ++ "." ++ Key.normal rest := by
      rw [Keys.normal_of_route hroute]
      simp only [String.append_assoc]
    exact ⟨entry, hentry, .beyond rfl hlocated⟩
  · obtain ⟨value, hvalue, -⟩ := (Option.any_eq_true _ _).1 hnames
    obtain ⟨parameter, hgiven, -⟩ := Option.bind_eq_some_iff.1 hvalue
    obtain ⟨hkey, entry, hentry, hroute⟩ := (visit.params.route_stems _ _).controls hgiven
    obtain ⟨given, -, hparameter⟩ := Keys.exists_value_of_route hroute nofun
    obtain ⟨rfl, -⟩ := Keys.control_of_routeParameter hparameter
    have hnormal : Key.normal entry.1 = Control.fields.name := hkey
    have hnode : ([], plan.relations.map Prod.fst) ∈ plan.outline := by
      rw [Plan.outline_eq]
      exact List.mem_cons_self
    have htrace : visit.level.trace ++ "." ++ name =
        Text.join '.' (visit.level.trace :: ([] ++ [name])) := by simp [Text.join_cons_cons]
    have hlocated : visit.level.trace ++ "." ++ Key.normal entry.1 =
        Text.join '.' (visit.level.trace :: ([] ++ [Control.fields.name])) := by
      simp [Text.join_cons_cons, hnormal]
    exact ⟨entry, hentry, .fields rfl hnode htrace hlocated⟩

variable {entry : String} {depthErrors : List RequestError} {relations : List (String × Plan)}

theorem mem_outline_planOf {result : String × Plan} (hresult : result ∈ relations)
    {path names : List String} (hnode : (path, names) ∈ result.2.outline) :
    (result.1 :: path, names) ∈ (visit.planOf catalog entry depthErrors relations).outline := by
  rw [Plan.outline_eq]
  refine List.mem_cons_of_mem _ (List.mem_flatMap.2 ?_)
  refine ⟨(result.1, { result.2 with errors := [] }), List.mem_map_of_mem hresult, ?_⟩
  rw [Plan.outline_withErrors]
  exact List.mem_map_of_mem hnode

/-- What explains an error of a relation's plan explains it as an error of the level. -/
theorem explains_planOf {result : String × Plan} (hresult : result ∈ relations)
    {trace childTrace located : String} (htrace : childTrace = trace ++ "." ++ result.1)
    {error : RequestError} (hexplains : result.2.Explains childTrace located error) :
    (visit.planOf catalog entry depthErrors relations).Explains trace located error := by
  have hjoin : ∀ path : List String, Text.join '.' (childTrace :: path) =
      Text.join '.' (trace :: result.1 :: path) := by
    intro path
    rw [Text.join_cons_cons, htrace]
    rfl
  cases hexplains with
  | here hlocal herror => exact .here hlocal herror
  | beyond hdepth hlocated => exact .beyond hdepth hlocated
  | fields hdepth hnode herror hlocated =>
      rw [hjoin, ← List.cons_append] at herror hlocated
      exact .fields hdepth (mem_outline_planOf hresult hnode) herror hlocated

/-- Entries of a visit explain all errors of its plan. -/
theorem Plans.explained (hplans : visit.Plans catalog depth plan) (hsound : catalog.Sound)
    {error : RequestError} (herror : error ∈ plan.errors) :
    ∃ entry ∈ visit.params.entries.entries, plan.Explains visit.level.trace
      (visit.level.trace ++ "." ++ Key.normal entry.1) error := by
  induction depth generalizing visit plan with
  | zero =>
      obtain ⟨name, rfl⟩ := hplans.eq_deepest
      simp only [planOf, Level.Reading.plan, List.flatMap_nil, List.append_nil, List.mem_append,
        List.mem_map] at herror
      rcases herror with (hread | ⟨relation, hasked, rfl⟩) | happly
      · exact explains_of_blamed (Level.blamed_of_mem_errors _ hread)
      · exact explains_of_mem_asked hasked
      · exact explains_of_blamed (Level.Reading.blamed_of_mem_apply _ happly)
  | succ depth ih =>
      obtain ⟨relations, -, hrelations, name, rfl⟩ := hplans.exists_below hsound
      simp only [planOf, Level.Reading.plan, List.append_nil, List.mem_append,
        List.mem_flatMap] at herror
      rcases herror with (hread | happly) | ⟨result, hresult, herror⟩
      · exact explains_of_blamed (Level.blamed_of_mem_errors _ hread)
      · exact explains_of_blamed (Level.Reading.blamed_of_mem_apply _ happly)
      · obtain ⟨child, hbelow, htrace, hchild⟩ := hrelations result hresult
        obtain ⟨below, hmem, hexplains⟩ := ih hchild herror
        obtain ⟨source, hsource, -, hlocated⟩ := exists_located_of_mem_below hbelow htrace hmem
        rw [hlocated] at hexplains
        exact ⟨source, hsource, explains_planOf hresult htrace hexplains⟩

/-- The plans of relations hand their errors on, at every depth. -/
theorem Plans.errors_nodesBelow (hplans : visit.Plans catalog depth plan)
    (hsound : catalog.Sound) : ∀ node ∈ Plan.nodesBelow plan.relations, node.errors = [] := by
  induction depth generalizing visit plan with
  | zero =>
      obtain ⟨_, rfl⟩ := hplans.eq_deepest
      exact nofun
  | succ depth ih =>
      obtain ⟨relations, -, hrelations, _, rfl⟩ := hplans.exists_below hsound
      intro node hnode
      rw [Plan.nodesBelow_eq_flatMap, List.mem_flatMap] at hnode
      obtain ⟨entry, hentry, hnode⟩ := hnode
      obtain ⟨result, hresult, rfl⟩ := List.mem_map.1 hentry
      rw [Plan.nodes_eq, List.mem_cons] at hnode
      rcases hnode with rfl | hbelow
      · rfl
      · obtain ⟨child, -, -, hchild⟩ := hrelations result hresult
        exact ih hchild node hbelow

end Visit

/-- No node of a plan but the root has errors, and an entry of the request explains each error of
the root. -/
theorem Document.errors_explained {document : Document} {catalog : Catalog}
    (hresolve : document.resolve = .ok catalog) {resource : String} {target : Target}
    {params : Params} {plan : Plan}
    (hplan : catalog.plan resource target params = .ok plan) :
    (∀ node ∈ Plan.nodesBelow plan.relations, node.errors = []) ∧
      ∀ error ∈ plan.errors, ∃ entry ∈ params.entries.entries,
        plan.Explains resource (resource ++ "." ++ Key.normal entry.1) error := by
  have hsound := sound_of_resolve hresolve
  obtain ⟨visit, hplans, rfl, rfl, -⟩ := hsound.exists_visit hplan
  exact ⟨hplans.errors_nodesBelow hsound, fun _ => hplans.explained hsound⟩

/-- Areas by a filter that nothing is known of, three relations away and spelled in another way,
and by one a relation further. -/
def Sample.astray : Params :=
  ⟨.ofList [("Cabins. AREA .DF.openSince", .string "~lake"),
    ("cabins.area.cabins.Area.name", .string "~lake")]⟩

theorem errors_explained_cabins :
    ∃ plan, Sample.catalog.plan "area" .list Sample.astray = .ok plan ∧
      plan.errors =
        [⟨"area.cabins.area.df.open_since", .unknownParameter⟩,
          ⟨"area.cabins.area.cabins.area", .tooDeep maxDepth⟩] ∧
      (∀ node ∈ Plan.nodesBelow plan.relations, node.errors = []) ∧
      ∀ error ∈ plan.errors, ∃ entry ∈ Sample.astray.entries.entries,
        plan.Explains "area" ("area" ++ "." ++ Key.normal entry.1) error := by
  have hplan : Sample.catalog.plan "area" .list Sample.astray =
      .ok ((Sample.catalog.plan "area" .list Sample.astray).toOption.getD default) :=
    eq_ok_of_isOk default (by decide +kernel)
  exact ⟨_, hplan, by decide +kernel,
    Document.errors_explained Sample.resolve_document hplan⟩

end RestQuery
