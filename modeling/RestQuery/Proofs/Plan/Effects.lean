import RestQuery.Proofs.Plan.Filters
import RestQuery.Proofs.Plan.Visits
import RestQuery.Proofs.Request.Keys

/-!
# What becomes of entries

If a plan has no errors, each entry of the request has an effect on one of its nodes.  The
first segments of the key lead to the node by relations of the plan, and the others name a
filter of the node, whose clauses it holds, or a control, whose value it has.

Main statement: `Document.entry_takes_effect`.
-/

namespace RestQuery

/-- The node at the end of a path of relations. -/
def Plan.along? (plan : Plan) : List String → Option Plan
  | [] => some plan
  | name :: rest => (plan.relations.lookup name).bind (·.along? rest)

namespace Visit

/-- The key of the filter that segments name at a level. -/
def filterKey (visit : Visit) (segments : List String) : String :=
  Key.ofSegments ((visit.level.keys visit.capability).ownSegments segments)

/-- What a value does to the node of a visit under the segments of a key.  A relation that it
projects is among those of the node, unless nothing may be below and it is shown by default. -/
inductive Effect (catalog : Catalog) (visit : Visit) (node : Plan) (deepest : Prop)
    (value : ParamValue) : List String → Prop
  | field {segments : List String} {rule : FilterRule} {field : FieldRef} {type : FieldType}
      {clauses : List Clause}
      (hrule : visit.capability.filters.get? (visit.filterKey segments) = some rule)
      (hsubject : visit.level.subject? catalog (visit.filterKey segments)
        = some (.field field type))
      (hcompile : Filter.compile type field rule value = .ok clauses)
      (hclauses : clauses <:+: node.filters) : Effect catalog visit node deepest value segments
  | existence {segments : List String} {rule : FilterRule} {relation : Relation} {s : String}
      {join stored : JoinKind} {clauses : List Clause}
      (hrule : visit.capability.filters.get? (visit.filterKey segments) = some rule)
      (hsubject : visit.level.subject? catalog (visit.filterKey segments)
        = some (.existence relation))
      (hvalue : value.single? = some s)
      (hcompile : Filter.compileExistence relation rule s = .ok (join, clauses))
      (hclauses : clauses <:+: node.filters)
      (hjoin : node.joins.get? relation.name = some stored)
      (hstored : stored = join ∨ stored = .leftExclusive) :
      Effect catalog visit node deepest value segments
  | limit {s : String} {n : UInt32} (hpaged : visit.capability.paged = true)
      (hvalue : value.single? = some s) (hcount : Level.readCount? s = some n)
      (hbounds : 1 ≤ n ∧ n ≤ visit.capability.maxLimit) (hnode : node.limit = some n) :
      Effect catalog visit node deepest value ["limit"]
  | offset {s : String} {n : UInt32} (hpaged : visit.capability.paged = true)
      (hvalue : value.single? = some s) (hcount : Level.readCount? s = some n)
      (hnode : node.offset = some n) : Effect catalog visit node deepest value ["offset"]
  | order {s : String} (hordered : visit.capability.ordered = true)
      (hvalue : value.single? = some s)
      (hread : Order.read ⟨visit.capability.orderFields,
        (visit.level.link?.map (·.orderFields)).getD []⟩ s = .ok node.order) :
      Effect catalog visit node deepest value ["order"]
  | fields {s : String} {draft : Projection.Draft} (hvalue : Level.fieldList? value = some s)
      (hread : Projection.read visit.capability (visit.level.names visit.capability) s = draft)
      (hproblems : draft.problems = []) (hprojection : visit.projection = draft.projection)
      (hfields : node.fields = draft.projection.fields)
      (hrelations : ∀ name ∈ draft.projection.relations,
        name ∈ node.relations.map Prod.fst ∨ deepest ∧ name ∉ draft.named) :
      Effect catalog visit node deepest value ["fields"]
  | search {s : String} (hsearchable : visit.capability.searchable = true)
      (hvalue : value.single? = some s)
      (hnode : node.filters.filter Clause.isSearch =
        Filter.compileSearch visit.level.resource.searchColumn s) :
      Effect catalog visit node deepest value ["q"]

end Visit

/-! ## Values of controls -/

def Capability.offers (capability : Capability) : Control → Bool
  | .fields => true
  | .limit | .offset => capability.paged
  | .order => capability.ordered
  | .search => capability.searchable

namespace Level

variable {catalog : Catalog} {level : Level} {capability : Capability} {entry : String}
  {params : Params} {parameter : Parameter}

theorem read_of_controlValue {given : Option Parameter} {default : α}
    {read : Parameter → Except RequestError α} (hgiven : given = some parameter)
    (hvalid : (controlValue given default read).2 = []) :
    read parameter = .ok (controlValue given default read).1 := by
  subst hgiven
  cases hread : read parameter with
  | ok value => simp [controlValue, hread]
  | error error => simp [controlValue, hread] at hvalid

/-- A limit is one text that denotes a number from one to the largest permitted. -/
theorem readLimit_eq_ok_iff {max n : UInt32} :
    readLimit max parameter = .ok n ↔
      ∃ s, parameter.value.single? = some s ∧ readCount? s = some n ∧ 1 ≤ n ∧ n ≤ max := by
  simp only [readLimit, bind_eq_ok_iff, Parameter.single_eq_ok_iff]
  refine exists_congr fun s => and_congr_right fun _ => ?_
  cases readCount? s with
  | none => simp [throw, throwThe, MonadExceptOf.throw]
  | some count =>
      dsimp only
      split
      next hbounds =>
        rw [pure_eq_ok_iff, Option.some.injEq]
        constructor
        · rintro rfl
          exact ⟨rfl, hbounds⟩
        · exact And.left
      next hbounds =>
        simp only [throw, throwThe, MonadExceptOf.throw, Option.some.injEq, reduceCtorEq,
          false_iff]
        rintro ⟨rfl, hinside⟩
        exact hbounds hinside

/-- An offset is one text that denotes a number of 32 bits. -/
theorem readOffset_eq_ok_iff {n : UInt32} :
    readOffset parameter = .ok n ↔
      ∃ s, parameter.value.single? = some s ∧ readCount? s = some n := by
  simp only [readOffset, bind_eq_ok_iff, Parameter.single_eq_ok_iff]
  refine exists_congr fun s => and_congr_right fun _ => ?_
  cases readCount? s <;> simp [throw, throwThe, MonadExceptOf.throw]

theorem readOrder_eq_ok_iff {fields : Order.Fields} {entries : List OrderEntry} :
    readOrder fields parameter = .ok entries ↔
      ∃ s, parameter.value.single? = some s ∧ Order.read fields s = .ok entries := by
  simp only [readOrder, bind_eq_ok_iff, Parameter.single_eq_ok_iff, mapError_eq_ok_iff]

variable {routed : Routed}

theorem exists_limit (hpaged : capability.paged = true)
    (hgiven : routed.control? .limit = some parameter)
    (hvalid : (limit capability routed).2 = []) :
    ∃ n, readLimit capability.maxLimit parameter = .ok n ∧
      (limit capability routed).1 = some n := by
  rw [limit, if_pos hpaged] at hvalid ⊢
  exact ⟨_, read_of_controlValue hgiven hvalid, rfl⟩

theorem exists_offset (hpaged : capability.paged = true)
    (hgiven : routed.control? .offset = some parameter)
    (hvalid : (offset capability routed).2 = []) :
    ∃ n, readOffset parameter = .ok n ∧ (offset capability routed).1 = some n := by
  rw [offset, if_pos hpaged] at hvalid ⊢
  exact ⟨_, read_of_controlValue hgiven hvalid, rfl⟩

theorem readOrder_of_order (hordered : capability.ordered = true)
    (hgiven : routed.control? .order = some parameter)
    (hvalid : (level.order capability routed).2 = []) :
    readOrder ⟨capability.orderFields, (level.link?.map (·.orderFields)).getD []⟩ parameter =
      .ok (level.order capability routed).1 := by
  rw [order, if_pos hordered] at hvalid ⊢
  exact read_of_controlValue hgiven hvalid

theorem exists_mem_separate {results : List (Except ε α)} (hvalid : (separate results).2 = [])
    {result : Except ε α} (hmem : result ∈ results) :
    ∃ value ∈ (separate results).1, result = .ok value := by
  induction results with
  | nil => cases hmem
  | cons first rest ih =>
      cases first with
      | error error => cases hvalid
      | ok value =>
          rcases List.mem_cons.1 hmem with rfl | hmem
          · exact ⟨value, List.mem_cons_self, rfl⟩
          · obtain ⟨found, hfound, heq⟩ := ih hvalid hmem
            exact ⟨found, List.mem_cons_of_mem _ hfound, heq⟩

theorem projection_of_control? (level : Level) (capability : Capability) {s : String}
    (hgiven : routed.control? .fields = some parameter)
    (hvalue : fieldList? parameter.value = some s) :
    level.projection capability routed =
      ((Projection.read capability (level.names capability) s).projection,
        (Projection.read capability (level.names capability) s).named,
        (Projection.read capability (level.names capability) s).problems.map parameter.error) := by
  rw [projection, hgiven]
  dsimp only
  rw [hvalue]

theorem mem_controls_iff {control : Control} :
    control ∈ controls capability ↔ capability.offers control = true := by
  cases hpaged : capability.paged <;> cases hordered : capability.ordered <;>
    cases hsearchable : capability.searchable <;> cases control <;>
    simp [controls, Capability.offers, hpaged, hordered, hsearchable]

theorem mem_keys_controls_iff {control : Control} :
    control.name ∈ (level.keys capability).controls ↔ capability.offers control = true := by
  simp [keys, Control.name_inj, mem_controls_iff]

end Level

namespace Visit

variable {document : Document} {catalog : Catalog} {visit child : Visit} {depth : Nat}
  {plan : Plan} {entry : String} {depthErrors : List RequestError}
  {relations : List (String × Plan)} {parameter : Parameter}

/-- Nothing is wrong with the parameters of a level. -/
structure Valid (catalog : Catalog) (visit : Visit) : Prop where
  routed : visit.routed.errors = []
  filters : (Level.separate (visit.routed.filters.map
    (visit.level.filter catalog visit.capability))).2 = []
  limit : (Level.limit visit.capability visit.routed).2 = []
  offset : (Level.offset visit.capability visit.routed).2 = []
  order : (visit.level.order visit.capability visit.routed).2 = []
  projection : (visit.level.projection visit.capability visit.routed).2.2 = []

theorem valid_of_errors
    (hvalid : (visit.reading catalog entry).errors = []) :
    visit.Valid catalog := by
  simp only [reading, Level.readWith, List.append_eq_nil_iff] at hvalid
  obtain ⟨⟨⟨⟨⟨hrouted, hfilters⟩, hlimit⟩, hoffset⟩, horder⟩, hprojection⟩ := hvalid
  exact ⟨hrouted, hfilters, hlimit, hoffset, horder, hprojection⟩

/-- At a level without errors every entry is where it goes. -/
theorem keeps_route (hvalid : visit.Valid catalog) {key : String} {value : Json}
    (hentry : (key, value) ∈ visit.params.entries.entries) :
    visit.routed.Keeps value (visit.route key value) :=
  Params.keeps_route hvalid.routed hentry

/-- A filter of a level without errors is in effect there. -/
theorem effect_filter (hvalid : visit.Valid catalog)
    (happly : ((visit.reading catalog entry).apply visit.level).errors = [])
    (hmem : parameter ∈ visit.routed.filters) {deepest : Prop}
    {segments : List String} (hkey : parameter.key = visit.filterKey segments) :
    visit.Effect catalog (visit.planOf catalog entry depthErrors relations) deepest
      parameter.value segments := by
  obtain ⟨filter, hfilter, heq⟩ :=
    Level.exists_mem_separate hvalid.filters (List.mem_map_of_mem hmem)
  obtain ⟨hsubject, hrule⟩ := Level.granted_of_filter heq (Params.mem_filters_of_mem_route hmem)
  have hkeeps := Level.Reading.keeps_apply happly filter hfilter
  obtain rfl := Level.parameter_of_filter heq
  rw [hkey] at hsubject hrule
  obtain ⟨parameter, subject, rule⟩ := filter
  cases subject with
  | field field type =>
      obtain ⟨clauses, hcompile, hclauses⟩ := hkeeps
      exact .field hrule hsubject hcompile hclauses
  | existence relation =>
      obtain ⟨s, join, clauses, stored, hvalue, hcompile, hclauses, hjoin, hstored⟩ := hkeeps
      exact .existence hrule hsubject hvalue hcompile hclauses hjoin hstored

/-- The relations that a level projects are among those of a node, unless nothing may be below
it and they are shown by default. -/
def ShowsProjected (visit : Visit) (node : Plan) (deepest : Prop) : Prop :=
  ∀ name ∈ visit.projection.relations,
    name ∈ node.relations.map Prod.fst ∨ deepest ∧ visit.names name = false

theorem effect_fields (hvalid : visit.Valid catalog) {deepest : Prop}
    (hshown : visit.ShowsProjected (visit.planOf catalog entry depthErrors relations) deepest)
    (hgiven : visit.routed.control? .fields = some parameter) :
    visit.Effect catalog (visit.planOf catalog entry depthErrors relations) deepest
      parameter.value ["fields"] := by
  have hproblems := hvalid.projection
  cases hvalue : Level.fieldList? parameter.value with
  | none => simp [Level.projection, hgiven, hvalue] at hproblems
  | some s =>
      have hread := visit.level.projection_of_control? visit.capability hgiven hvalue
      rw [hread, List.map_eq_nil_iff] at hproblems
      have hprojection : visit.projection =
          (Projection.read visit.capability (visit.level.names visit.capability) s).projection :=
        congrArg Prod.fst hread
      refine .fields hvalue rfl hproblems hprojection ?_ fun name hmem => ?_
      · exact congrArg Projection.fields hprojection
      · have hprojected : name ∈ visit.projection.relations := by
          rw [hprojection]
          exact hmem
        refine (hshown name hprojected).imp_right (And.imp_right fun hnamed => ?_)
        rw [names, fieldList?, hgiven, Option.bind_some, hvalue, Option.any_some] at hnamed
        rw [Projection.mem_named_read, hnamed]
        exact Bool.false_ne_true

/-- A control of a level without errors is in effect there. -/
theorem effect_control (hvalid : visit.Valid catalog)
    (happly : ((visit.reading catalog entry).apply visit.level).errors = []) {deepest : Prop}
    (hshown : visit.ShowsProjected (visit.planOf catalog entry depthErrors relations) deepest)
    {control : Control} (hgiven : visit.routed.control? control = some parameter) :
    visit.Effect catalog (visit.planOf catalog entry depthErrors relations) deepest
      parameter.value [control.name] := by
  have hoffered := Level.mem_keys_controls_iff.1 (Params.mem_controls_of_control? hgiven)
  cases control with
  | fields => exact effect_fields hvalid hshown hgiven
  | limit =>
      obtain ⟨n, hread, hlimit⟩ := Level.exists_limit hoffered hgiven hvalid.limit
      obtain ⟨s, hvalue, hcount, hbounds⟩ := Level.readLimit_eq_ok_iff.1 hread
      exact .limit hoffered hvalue hcount hbounds hlimit
  | offset =>
      obtain ⟨n, hread, hoffset⟩ := Level.exists_offset hoffered hgiven hvalid.offset
      obtain ⟨s, hvalue, hcount⟩ := Level.readOffset_eq_ok_iff.1 hread
      exact .offset hoffered hvalue hcount hoffset
  | order =>
      have hread := Level.readOrder_of_order hoffered hgiven hvalid.order
      obtain ⟨s, hvalue, horder⟩ := Level.readOrder_eq_ok_iff.1 hread
      exact .order hoffered hvalue horder
  | search =>
      obtain ⟨s, hvalue, hclauses⟩ := Level.Reading.filter_isSearch happly hgiven
      exact .search hoffered hvalue hclauses

/-- A plan without errors has none at its own level and none below. -/
theorem errors_planOf
    (hvalid : (visit.planOf catalog entry depthErrors relations).errors = []) :
    visit.Valid catalog ∧ depthErrors = [] ∧
      ((visit.reading catalog entry).apply visit.level).errors = [] ∧
      ∀ result ∈ relations, result.2.errors = [] := by
  simp only [planOf, Level.Reading.plan, List.append_eq_nil_iff, List.flatMap_eq_nil_iff] at hvalid
  obtain ⟨⟨⟨hread, hdepth⟩, happly⟩, hrelations⟩ := hvalid
  exact ⟨valid_of_errors hread, hdepth, happly, hrelations⟩

/-- An entry that stays at its level has its effect on the node there. -/
theorem exists_effect_of_route
    (hvalid : (visit.planOf catalog entry depthErrors relations).errors = []) {deepest : Prop}
    (hshown : visit.ShowsProjected (visit.planOf catalog entry depthErrors relations) deepest)
    {key : String} {value : Json} (hentry : (key, value) ∈ visit.params.entries.entries)
    (hstays : ∀ name rest parameter, visit.route key value ≠ .relation name rest parameter) :
    ∃ given, ParamValue.ofJson? value = some given ∧
      visit.Effect catalog (visit.planOf catalog entry depthErrors relations) deepest
        given.trimmed (Key.normalSegments key) := by
  obtain ⟨hlevel, -, happly, -⟩ := errors_planOf hvalid
  have hkeeps := keeps_route hlevel hentry
  cases hroute : visit.route key value with
  | filter parameter =>
      obtain ⟨given, hgiven, hparameter⟩ := Keys.exists_value_of_route hroute nofun
      obtain rfl := Keys.filter_of_routeParameter hparameter
      rw [hroute] at hkeeps
      exact ⟨given, hgiven, effect_filter hlevel happly hkeeps rfl⟩
  | control parameter =>
      obtain ⟨given, hgiven, hparameter⟩ := Keys.exists_value_of_route hroute nofun
      obtain ⟨rfl, name, hname, hkeys⟩ := Keys.control_of_routeParameter hparameter
      obtain ⟨control, -, rfl⟩ := List.mem_map.1 hname
      have hsegments : Key.normalSegments key = [control.name] := hkeys
      rw [hroute, Routed.Keeps, Parameter.key, hkeys, Key.ofSegments_singleton] at hkeeps
      rw [hsegments]
      exact ⟨given, hgiven, effect_control hlevel happly hshown hkeeps⟩
  | relation name rest parameter => exact absurd hroute (hstays name rest parameter)
  | refused error =>
      rw [hroute] at hkeeps
      exact hkeeps.elim

/-! ## Entries of levels below -/

theorem relations_planOf (hvalid : ∀ result ∈ relations, result.2.errors = []) :
    (visit.planOf catalog entry depthErrors relations).relations = relations := by
  have hkept : ∀ result ∈ relations,
      (result.1, { result.2 with errors := [] }) = result := by
    rintro ⟨name, plan⟩ hmem
    have hnone : plan.errors = [] := hvalid _ hmem
    cases plan
    cases hnone
    rfl
  calc relations.map (fun result => (result.1, { result.2 with errors := [] }))
      = relations.map id := List.map_congr_left hkept
    _ = relations := List.map_id relations

/-- At a level where nothing is wrong, an entry that goes to a relation is an entry of the visit
below. -/
theorem mem_entries_below (hvalid : visit.Valid catalog) {key rest : String} {value : Json}
    (hentry : (key, value) ∈ visit.params.entries.entries) {name : String}
    (hroute : visit.route key value = .relation name rest parameter)
    (hbelow : visit.below? catalog name = some child) :
    (rest, value) ∈ child.params.entries.entries := by
  have hkeeps := keeps_route hvalid hentry
  rw [hroute] at hkeeps
  obtain ⟨bucket, hbucket, hget⟩ := hkeeps
  obtain ⟨-, -, -, hparams, -⟩ := below?_eq_some_iff.1 hbelow
  rw [hbucket, Option.getD_some] at hparams
  rw [hparams]
  exact Table.get?_eq_some_iff.1 hget

theorem Plans.mem_asked (hplans : visit.Plans catalog depth plan)
    (hresolve : document.resolve = .ok catalog) {name : String} :
    name ∈ visit.asked ↔ visit.nests name = true ∨
      visit.names name = true ∧ name ∈ visit.projection.relations := by
  rw [asked, List.mem_filter, Bool.or_eq_true, Bool.and_eq_true, List.contains_iff_mem]
  constructor
  · exact And.right
  · intro hasked
    have hshown : name ∈ visit.shown :=
      (hplans.mem_shown hresolve).2 (hasked.symm.imp_left And.right)
    exact ⟨(List.mem_filter.1 hshown).1, hasked⟩

/-- An entry that goes to a relation is one of the visit there, for which the relation has a
plan. -/
theorem Plans.exists_relation (hplans : visit.Plans catalog (depth + 1) plan)
    (hresolve : document.resolve = .ok catalog) (hvalid : plan.errors = []) {key rest : String}
    {value : Json} (hentry : (key, value) ∈ visit.params.entries.entries) {name : String}
    (hroute : visit.route key value = .relation name rest parameter) :
    ∃ child sub, visit.below? catalog name = some child ∧ child.Plans catalog depth sub ∧
      plan.relations.lookup name = some sub ∧ sub.errors = [] ∧
      (rest, value) ∈ child.params.entries.entries := by
  have hshown := (hplans.mem_shown hresolve).2 (.inr (nests_iff.2 ⟨_, hentry, _, _, hroute⟩))
  obtain ⟨relations, hnames, hrelations, entry, rfl⟩ :=
    hplans.exists_below (Document.sound_of_resolve hresolve)
  obtain ⟨hlevel, -, -, hbelow⟩ := errors_planOf hvalid
  rw [← hnames] at hshown
  obtain ⟨⟨other, sub⟩, hsub, rfl⟩ := List.mem_map.1 hshown
  obtain ⟨child, hchild, -, hplansChild⟩ := hrelations _ hsub
  have hordered : relations.Pairwise fun left right => left.1 < right.1 := by
    rw [← List.pairwise_map, hnames]
    exact (Table.keys_pairwise _).filter _
  refine ⟨child, sub, hchild, hplansChild, ?_, hbelow _ hsub,
    mem_entries_below hlevel hentry hroute hchild⟩
  rw [relations_planOf hbelow, Table.lookup_eq_some_iff_mem hordered]
  exact hsub

/-- Each entry of a visit has an effect on a node of its plan, unless the plan has errors. -/
theorem Plans.exists_effect (hplans : visit.Plans catalog depth plan)
    (hresolve : document.resolve = .ok catalog) (hvalid : plan.errors = []) {key : String}
    {value : Json} (hentry : (key, value) ∈ visit.params.entries.entries) :
    ∃ path rest reached node given, Key.normalSegments key = path ++ rest ∧
      visit.along? catalog path = some reached ∧ plan.along? path = some node ∧
      ParamValue.ofJson? value = some given ∧
      reached.Effect catalog node (path.length = depth) given.trimmed rest := by
  induction depth generalizing visit plan key with
  | zero =>
      -- Whatever the level is asked for below is an error, so nothing is: the entry stays here.
      have hmem : ∀ name, name ∈ visit.asked ↔ visit.nests name = true ∨
          visit.names name = true ∧ name ∈ visit.projection.relations :=
        fun name => hplans.mem_asked hresolve
      obtain ⟨entry, rfl⟩ := hplans.eq_deepest
      obtain ⟨-, hasked, -, -⟩ := errors_planOf hvalid
      rw [List.map_eq_nil_iff] at hasked
      simp only [hasked, List.not_mem_nil, false_iff, not_or] at hmem
      have hprojected : ∀ node, visit.ShowsProjected node (0 = 0) := by
        intro node name hname
        exact .inr ⟨rfl, Bool.eq_false_iff.2 fun hnamed => (hmem name).2 ⟨hnamed, hname⟩⟩
      obtain ⟨given, hgiven, heffect⟩ := exists_effect_of_route hvalid (hprojected _) hentry
        fun name rest parameter hroute => (hmem name).1 (nests_iff.2 ⟨_, hentry, _, _, hroute⟩)
      exact ⟨[], _, visit, _, given, rfl, rfl, rfl, hgiven, heffect⟩
  | succ depth ih =>
      -- An entry that goes on is one of the child, whose path the name of the relation extends.
      by_cases hleads : ∃ name rest parameter,
          visit.route key value = .relation name rest parameter
      · obtain ⟨name, rest, parameter, hroute⟩ := hleads
        obtain ⟨child, sub, hchild, hsub, hlookup, hnone, hbelow⟩ :=
          hplans.exists_relation hresolve hvalid hentry hroute
        obtain ⟨path, others, reached, node, given, hsegments, halong, hnode, hgiven, heffect⟩ :=
          ih hsub hnone hbelow
        refine ⟨name :: path, others, reached, node, given, ?_, ?_, ?_, hgiven, ?_⟩
        · rw [Keys.normalSegments_of_route hroute, hsegments, List.cons_append]
        · rw [along?, hchild, Option.bind_some, halong]
        · rw [Plan.along?, hlookup, Option.bind_some, hnode]
        · simpa using heffect
      · have hshown : ∀ name, name ∈ visit.shown ↔
            name ∈ visit.projection.relations ∨ visit.nests name = true :=
          fun name => hplans.mem_shown hresolve
        obtain ⟨relations, hnames, -, entry, rfl⟩ :=
          hplans.exists_below (Document.sound_of_resolve hresolve)
        have hprojected : visit.ShowsProjected (visit.planOf catalog entry [] relations)
            (0 = depth + 1) := by
          intro name hname
          rw [names_planOf, hnames, hshown]
          exact .inl (.inl hname)
        obtain ⟨given, hgiven, heffect⟩ := exists_effect_of_route hvalid hprojected hentry
          fun name rest parameter hroute => hleads ⟨name, rest, parameter, hroute⟩
        exact ⟨[], _, visit, _, given, rfl, rfl, rfl, hgiven, heffect⟩

end Visit

/-- In a plan without errors, the segments of each key lead to a node by its relations, and what
is left of them is a filter or a control of the node, which holds what the value means. -/
theorem Document.entry_takes_effect {document : Document} {catalog : Catalog}
    (hresolve : document.resolve = .ok catalog) {resource : String} {target : Target}
    {params : Params} {plan : Plan} (hplan : catalog.plan resource target params = .ok plan)
    (hvalid : plan.errors = []) {key : String} {value : Json}
    (hentry : (key, value) ∈ params.entries.entries) :
    ∃ path rest visit node given, Key.segments (Key.normal key) = path ++ rest ∧
      catalog.visit? resource target params path = some visit ∧ plan.along? path = some node ∧
      ParamValue.ofJson? value = some given ∧
      visit.Effect catalog node (path.length = maxDepth) given.trimmed rest := by
  obtain ⟨root, hplans, rfl, -, hvisit⟩ :=
    (sound_of_resolve hresolve).exists_visit hplan
  obtain ⟨path, rest, visit, node, given, hsegments, halong, hnode, hgiven, heffect⟩ :=
    hplans.exists_effect hresolve hvalid hentry
  rw [← Key.segments_normal] at hsegments
  rw [← hvisit] at halong
  exact ⟨path, rest, visit, node, given, hsegments, halong, hnode, hgiven, heffect⟩

/-- The filter of the cabins within an area is one of the node for the cabins. -/
theorem entry_takes_effect_cabins :
    ∃ path rest visit node given,
      Key.segments (Key.normal "cabins.name") = path ++ rest ∧
      Sample.catalog.visit? "area" .single Sample.request path = some visit ∧
      Sample.plan.along? path = some node ∧
      ParamValue.ofJson? (.string "~lake") = some given ∧
      visit.Effect Sample.catalog node (path.length = maxDepth) given.trimmed rest := by
  have hvalid : Sample.plan.errors = [] := by decide +kernel
  have hentry : ("cabins.name", .string "~lake") ∈ Sample.request.entries.entries :=
    List.mem_cons_self
  exact Document.entry_takes_effect Sample.resolve_document Sample.plan_request hvalid hentry

end RestQuery
