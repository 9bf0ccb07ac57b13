import Mathlib.Data.List.Sort
import RestQuery.Proofs.Plan.Columns
import RestQuery.Proofs.Plan.Errors

/-!
# Levels with their parameters

A request visits its own level and those that relations lead to, each with the parameters for
that level.  The plan of a level holds the plans of the relations that it shows and of those
that entries reach into.

Main statements: `Visit.Plans.exists_below` and `Visit.Plans.eq_deepest`.
-/

namespace RestQuery

/-- A level with the capability for it and the parameters that a request has there. -/
structure Visit where
  level : Level
  capability : Capability
  params : Params

namespace Visit

def ofLevel? (level : Level) (params : Params) : Option Visit :=
  level.capability.toOption.map fun found => ⟨level, found.2, params⟩

def routed (visit : Visit) : Routed :=
  visit.params.route (visit.level.keys visit.capability) visit.level.trace

def route (visit : Visit) (key : String) (value : Json) : Route :=
  (visit.level.keys visit.capability).route visit.level.trace key value

/-- What the parameters ask for, under a capability entry with a name. -/
def reading (catalog : Catalog) (visit : Visit) (entry : String) : Level.Reading :=
  visit.level.readWith catalog entry visit.capability visit.params

def projection (visit : Visit) : Projection :=
  (visit.level.projection visit.capability visit.routed).1

/-- The visit of the level that a relation leads to, with the parameters that go there. -/
def below? (catalog : Catalog) (visit : Visit) (name : String) : Option Visit := do
  let relation ← visit.level.resource.relations.get? name
  let child ← (visit.level.child catalog relation).toOption
  ofLevel? child ((visit.routed.relations.get? name).getD {})

def along? (catalog : Catalog) (visit : Visit) : List String → Option Visit
  | [] => some visit
  | name :: rest => (visit.below? catalog name).bind (·.along? catalog rest)

end Visit

/-- The visit of a request at the end of a path of relations. -/
def Catalog.visit? (catalog : Catalog) (resource : String) (target : Target) (params : Params)
    (path : List String) : Option Visit := do
  let level ← (Level.root catalog resource target).toOption
  let visit ← Visit.ofLevel? level params
  visit.along? catalog path

/-! ## Relations that entries reach into -/

def Route.leadsTo (name : String) : Route → Bool
  | .relation other _ _ => other = name
  | _ => false

/-- Whether an entry of a level reaches into a relation. -/
def Visit.nests (visit : Visit) (name : String) : Bool :=
  visit.params.entries.entries.any fun entry => (visit.route entry.1 entry.2).leadsTo name

theorem Routed.contains_relations_add (routed : Routed) (value : Json) (route : Route)
    (name : String) :
    (routed.add value route).relations.contains name =
      (routed.relations.contains name || route.leadsTo name) := by
  cases route with
  | filter parameter => simp [Routed.add, Route.leadsTo]
  | control parameter =>
      rw [Routed.add]
      split <;> simp [Routed.refuse, Route.leadsTo]
  | relation other rest parameter =>
      have hinsert : ∀ bucket, (routed.relations.insert other bucket).contains name =
          (routed.relations.contains name || decide (other = name)) := by
        intro bucket
        by_cases heq : name = other
        · simp [Table.contains, heq]
        · simp [Table.contains, heq, Ne.symm heq]
      rw [Routed.add]
      split <;> simp [Routed.refuse, Route.leadsTo, hinsert]
  | refused error => simp [Routed.add, Routed.refuse, Route.leadsTo]

namespace Visit

variable {document : Document} {catalog : Catalog} {visit child : Visit} {depth : Nat}
  {plan : Plan} {name : String}

/-- Parameters for the level of a relation are those of the entries that go there. -/
theorem contains_relations_routed (visit : Visit) (name : String) :
    visit.routed.relations.contains name = visit.nests name := by
  have hfold : ∀ (keys : Keys) (trace : String) (entries : List (String × Json))
      (routed : Routed),
      (entries.foldl (fun routed entry => routed.add entry.2 (keys.route trace entry.1 entry.2))
          routed).relations.contains name =
        (routed.relations.contains name ||
          entries.any fun entry => (keys.route trace entry.1 entry.2).leadsTo name) := by
    intro keys trace entries
    induction entries with
    | nil => simp
    | cons entry rest ih =>
        intro routed
        rw [List.foldl_cons, ih, Routed.contains_relations_add, List.any_cons, Bool.or_assoc]
  exact hfold _ _ _ {}

theorem ofLevel?_eq_some_iff {level : Level} {params : Params} :
    ofLevel? level params = some visit ↔
      visit.level = level ∧ visit.params = params ∧
        ∃ entry, level.capability = .ok (entry, visit.capability) := by
  rw [ofLevel?]
  cases hcapability : level.capability with
  | error fault => simp [Except.toOption]
  | ok found =>
      obtain ⟨entry, capability⟩ := found
      obtain ⟨own, given, ownParams⟩ := visit
      simp only [Except.toOption, Option.map_some, Option.some.injEq, mk.injEq, Except.ok.injEq,
        Prod.mk.injEq]
      constructor
      · rintro ⟨rfl, rfl, rfl⟩
        exact ⟨rfl, rfl, entry, rfl, rfl⟩
      · rintro ⟨rfl, rfl, _, -, rfl⟩
        exact ⟨rfl, rfl, rfl⟩

/-! ## Relations of a level -/

/-- The relations that a level projects and those that entries reach into. -/
def shown (visit : Visit) : List String :=
  visit.level.resource.relations.keys.filter fun name =>
    visit.projection.relations.contains name || visit.nests name

/-- The value of the control for fields that a level is given. -/
def fieldList? (visit : Visit) : Option String :=
  (visit.routed.control? .fields).bind (Level.fieldList? ·.value)

/-- Whether the value for fields adds a relation by name. -/
def names (visit : Visit) (name : String) : Bool :=
  visit.fieldList?.any fun value =>
    (Projection.start visit.capability (Projection.tokens value)).2.any
      (Projection.addsRelation (visit.level.names visit.capability) name)

/-- The relations that a level is asked for: those that entries reach into, and those that are
named and still projected. -/
def asked (visit : Visit) : List String :=
  visit.level.resource.relations.keys.filter fun name =>
    visit.nests name || visit.names name && visit.projection.relations.contains name

end Visit

namespace Level

variable {catalog : Catalog} {level : Level} {reading : Reading}

/-- The relations to follow are those of the resource that are shown or reached into. -/
theorem mem_below {entry : String × Relation × Option Params} :
    entry ∈ reading.below level ↔
      level.resource.relations.get? entry.1 = some entry.2.1 ∧
        entry.2.2 = reading.nested.get? entry.1 ∧
        (entry.1 ∈ reading.projection.relations ∨ entry.1 ∈ reading.nested.keys) := by
  have hwanted : ∀ name, name ∈ (Table.ofList
      ((reading.projection.relations ++ reading.nested.keys).map (·, ()))).keys ↔
        name ∈ reading.projection.relations ∨ name ∈ reading.nested.keys := by
    intro name
    rw [← List.mem_append, ← Table.contains_iff_mem_keys, Table.contains]
    constructor
    · intro hsome
      obtain ⟨value, hget⟩ := Option.isSome_iff_exists.1 hsome
      simpa using Table.mem_of_get?_ofList hget
    · intro hmem
      exact Table.isSome_get?_ofList (List.mem_map_of_mem hmem)
  obtain ⟨name, relation, nested⟩ := entry
  simp only [Reading.below, List.mem_filterMap, hwanted, Option.map_eq_some_iff, Prod.mk.injEq]
  constructor
  · rintro ⟨_, hmem, found, hfound, rfl, rfl, rfl⟩
    exact ⟨hfound, rfl, hmem⟩
  · rintro ⟨hfound, rfl, hmem⟩
    exact ⟨name, hmem, relation, hfound, rfl, rfl, rfl⟩

/-- Relations are followed in the order of their names. -/
theorem names_below (reading : Reading) :
    (reading.below level).map Prod.fst = level.resource.relations.keys.filter fun name =>
      reading.projection.relations.contains name || reading.nested.contains name := by
  have hsorted : ((reading.below level).map Prod.fst).Pairwise (· < ·) := by
    rw [Reading.below, List.map_filterMap]
    refine List.Pairwise.filterMap _ (fun first second hlt => ?_) (Table.keys_pairwise _)
    simp only [Option.map_map, Option.map_eq_some_iff]
    rintro _ ⟨_, -, rfl⟩ _ ⟨_, -, rfl⟩
    exact hlt
  apply List.Pairwise.eq_of_mem_iff hsorted ((Table.keys_pairwise _).filter _)
  intro name
  rw [List.mem_filter, ← Table.contains_iff_mem_keys, List.mem_map, Table.contains,
    Option.isSome_iff_exists, Bool.or_eq_true, List.contains_iff_mem, Table.contains_iff_mem_keys]
  constructor
  · rintro ⟨entry, hmem, rfl⟩
    obtain ⟨hfound, -, hwanted⟩ := mem_below.1 hmem
    exact ⟨⟨_, hfound⟩, hwanted⟩
  · rintro ⟨⟨relation, hfound⟩, hwanted⟩
    exact ⟨(name, relation, reading.nested.get? name), mem_below.2 ⟨hfound, rfl, hwanted⟩, rfl⟩

theorem tooDeep_eq (reading : Reading) :
    reading.tooDeep level =
      (((reading.below level).map Prod.fst).filter fun name =>
        reading.nested.contains name || reading.named.contains name).map fun name =>
          ⟨level.trace ++ "." ++ name, .tooDeep maxDepth⟩ := by
  rw [List.filter_map, List.map_map, ← List.filterMap_eq_map, List.filterMap_filter]
  apply List.filterMap_congr
  intro entry hmem
  obtain ⟨-, hnested, -⟩ := mem_below.1 hmem
  obtain ⟨name, relation, nested⟩ := entry
  obtain rfl : nested = reading.nested.get? name := hnested
  rfl

end Level

namespace Visit

variable {document : Document} {catalog : Catalog} {visit child : Visit} {depth : Nat}
  {plan : Plan} {name : String}

/-- A plan is made for a visit, with so many more relations to follow. -/
structure Plans (catalog : Catalog) (depth : Nat) (visit : Visit) (plan : Plan) : Prop where
  held : visit.level.Held catalog
  hasEntry : ∃ entry, visit.level.capability = .ok (entry, visit.capability)
  isPlan : visit.level.planWithin catalog depth visit.params = .ok plan

/-- The plan of a visit, given the plans of its relations. -/
def planOf (catalog : Catalog) (visit : Visit) (entry : String)
    (depthErrors : List RequestError) (relations : List (String × Plan)) : Plan :=
  (visit.reading catalog entry).plan visit.level depthErrors relations

theorem names_planOf (entry : String) (depthErrors : List RequestError)
    (relations : List (String × Plan)) :
    (visit.planOf catalog entry depthErrors relations).relations.map Prod.fst =
      relations.map Prod.fst := by
  rw [planOf, Level.Reading.plan, List.map_map]
  rfl

/-- What the level of a visit reads. -/
theorem Plans.eq_of_read (hplans : visit.Plans catalog depth plan) {reading : Level.Reading}
    (hread : visit.level.read catalog visit.params = .ok reading) :
    ∃ entry, reading = visit.reading catalog entry := by
  obtain ⟨entry, hentry⟩ := hplans.hasEntry
  obtain ⟨other, capability, hcapability, rfl⟩ := Level.read_eq_ok_iff.1 hread
  rw [hentry] at hcapability
  obtain ⟨rfl, rfl⟩ := Prod.mk.inj (Except.ok.inj hcapability)
  exact ⟨entry, rfl⟩

theorem contains_named (entry : String) :
    (visit.reading catalog entry).named.contains name = visit.names name := by
  have hnamed : (visit.reading catalog entry).named =
      (visit.level.projection visit.capability visit.routed).2.1 := rfl
  rw [hnamed, Level.projection, names, fieldList?]
  cases visit.routed.control? .fields with
  | none => rfl
  | some parameter =>
      dsimp only [Option.bind_some]
      cases Level.fieldList? parameter.value with
      | none => rfl
      | some value =>
          rw [Bool.eq_iff_iff, List.contains_iff_mem, Option.any_some]
          exact Projection.mem_named_read

/-- A visit below is at the level of the relation, with the parameters that go there. -/
theorem below?_eq_some_iff :
    visit.below? catalog name = some child ↔
      ∃ relation, visit.level.resource.relations.get? name = some relation ∧
        visit.level.child catalog relation = .ok child.level ∧
        child.params = (visit.routed.relations.get? name).getD {} ∧
        ∃ entry, child.level.capability = .ok (entry, child.capability) := by
  have htoOption : ∀ {outcome : Except CatalogError Level} {level : Level},
      outcome.toOption = some level ↔ outcome = .ok level := by
    intro outcome level
    cases outcome <;> simp [Except.toOption]
  simp only [below?, bind, Option.bind_eq_some_iff, htoOption, ofLevel?_eq_some_iff]
  constructor
  · rintro ⟨relation, hrelation, level, hchild, rfl, hparams, hentry⟩
    exact ⟨relation, hrelation, hchild, hparams, hentry⟩
  · rintro ⟨relation, hrelation, hchild, hparams, hentry⟩
    exact ⟨relation, hrelation, child.level, hchild, rfl, hparams, hentry⟩

/-- The plan of a level holds plans for the visits of the relations that it shows, and their
errors behind its own. -/
theorem Plans.exists_below (hplans : visit.Plans catalog (depth + 1) plan)
    (hsound : catalog.Sound) :
    ∃ relations : List (String × Plan),
      relations.map Prod.fst = visit.shown ∧
      (∀ entry ∈ relations, ∃ child, visit.below? catalog entry.1 = some child ∧
        child.level.trace = visit.level.trace ++ "." ++ entry.1 ∧
        child.Plans catalog depth entry.2) ∧
      ∃ entry, plan = visit.planOf catalog entry [] relations := by
  obtain ⟨reading, relations, hread, hrelations, rfl⟩ :=
    Level.planWithin_succ_eq_ok_iff.1 hplans.isPlan
  obtain ⟨entry, rfl⟩ := hplans.eq_of_read hread
  refine ⟨relations, ?_, fun result hresult => ?_, entry, rfl⟩
  · have hnames : ((visit.reading catalog entry).below visit.level).map Prod.fst =
        relations.map Prod.fst := by
      rw [← List.forall₂_eq_eq_eq, List.forall₂_map_left_iff, List.forall₂_map_right_iff]
      exact hrelations.imp fun _ _ hfollows => hfollows.1
    rw [← hnames, Level.names_below]
    refine List.filter_congr fun name _ => ?_
    rw [← contains_relations_routed]
    rfl
  · obtain ⟨⟨name, relation, nested⟩, hmem, rfl, level, hchild, hplan⟩ :=
      exists_of_mem_right hrelations hresult
    obtain ⟨hrelation, hnested, -⟩ := Level.mem_below.1 hmem
    dsimp only at hrelation hnested hchild hplan
    have hheld := hplans.held.of_child hsound hrelation hchild
    obtain ⟨_, hread⟩ := hheld.exists_read hsound {}
    obtain ⟨childEntry, capability, hcapability, -⟩ := Level.read_eq_ok_iff.1 hread
    let child : Visit := ⟨level, capability, nested.getD {}⟩
    refine ⟨child, ?_, ?_, hheld, ⟨childEntry, hcapability⟩, hplan⟩
    · refine below?_eq_some_iff.2 ⟨relation, hrelation, hchild, ?_, childEntry, hcapability⟩
      exact congrArg (·.getD {}) hnested
    · obtain ⟨_, -, rfl⟩ := Level.child_eq_ok_iff.1 hchild
      rw [← (hplans.held.sound hsound).relationNamed hrelation]

/-- A relation is reached into exactly if an entry goes to its level. -/
theorem nests_iff :
    visit.nests name = true ↔ ∃ entry ∈ visit.params.entries.entries, ∃ rest parameter,
      visit.route entry.1 entry.2 = .relation name rest parameter := by
  rw [nests, List.any_eq_true]
  refine exists_congr fun entry => and_congr_right fun _ => ?_
  cases visit.route entry.1 entry.2 <;> simp [Route.leadsTo]

theorem mem_keys_of_nests (hnests : visit.nests name = true) :
    visit.level.resource.relations.contains name = true := by
  obtain ⟨entry, -, rest, parameter, hroute⟩ := nests_iff.1 hnests
  obtain ⟨value, -, hparameter⟩ := Keys.exists_value_of_route hroute nofun
  obtain ⟨hmem, -⟩ := Keys.relation_of_routeParameter hparameter
  exact Table.contains_iff_mem_keys.2 hmem

/-- The names of the relations that entries reach into have no points. -/
theorem point_notMem_of_nests (hnests : visit.nests name = true) : '.' ∉ name.toList := by
  obtain ⟨entry, -, rest, parameter, hroute⟩ := nests_iff.1 hnests
  exact Keys.point_notMem_of_route hroute

theorem entries_ne_nil_of_nests (hnests : visit.nests name = true) :
    visit.params.entries.entries ≠ [] := by
  obtain ⟨entry, hentry, -⟩ := nests_iff.1 hnests
  exact List.ne_nil_of_mem hentry

/-- A level without entries is not asked for relations. -/
theorem entries_ne_nil_of_mem_asked (hasked : name ∈ visit.asked) :
    visit.params.entries.entries ≠ [] := by
  obtain ⟨-, hasked⟩ := List.mem_filter.1 hasked
  rw [Bool.or_eq_true, Bool.and_eq_true] at hasked
  rcases hasked with hnests | ⟨hnames, -⟩
  · exact entries_ne_nil_of_nests hnests
  · obtain ⟨value, hvalue, -⟩ := (Option.any_eq_true _ _).1 hnames
    obtain ⟨parameter, hgiven, -⟩ := Option.bind_eq_some_iff.1 hvalue
    obtain ⟨-, entry, hentry, -⟩ := (visit.params.route_stems _ _).controls hgiven
    exact List.ne_nil_of_mem hentry

/-- Entries get to a level along relations whose names have no points. -/
theorem point_notMem_of_along? {reached : Visit} {path : List String}
    (halong : visit.along? catalog path = some reached)
    (hentries : reached.params.entries.entries ≠ []) :
    visit.params.entries.entries ≠ [] ∧ ∀ name ∈ path, '.' ∉ name.toList := by
  induction path generalizing visit with
  | nil =>
      obtain rfl := Option.some.inj halong
      exact ⟨hentries, nofun⟩
  | cons name rest ih =>
      obtain ⟨child, hbelow, hrest⟩ := Option.bind_eq_some_iff.1 halong
      obtain ⟨hchild, hnames⟩ := ih hrest
      obtain ⟨-, -, -, hparams, -⟩ := below?_eq_some_iff.1 hbelow
      -- The entries of the child are those that reach into its relation, so there are some.
      have hnests : visit.nests name = true := by
        rw [← contains_relations_routed, Table.contains]
        cases hbucket : visit.routed.relations.get? name with
        | none =>
            rw [hparams, hbucket] at hchild
            exact absurd rfl hchild
        | some bucket => rfl
      exact ⟨entries_ne_nil_of_nests hnests,
        List.forall_mem_cons.2 ⟨point_notMem_of_nests hnests, hnames⟩⟩

/-- A level shows the relations that it projects and those that entries reach into. -/
theorem Plans.mem_shown (hplans : visit.Plans catalog depth plan)
    (hresolve : document.resolve = .ok catalog) :
    name ∈ visit.shown ↔ name ∈ visit.projection.relations ∨ visit.nests name = true := by
  obtain ⟨entry, hcapability⟩ := hplans.hasEntry
  have hdeclared := hplans.held.declared_of_capability hresolve hcapability
  rw [shown, List.mem_filter, Bool.or_eq_true, List.contains_iff_mem]
  constructor
  · exact And.right
  · intro hshown
    refine ⟨Table.contains_iff_mem_keys.1 ?_, hshown⟩
    rcases hshown with hprojected | hnests
    · exact Level.contains_of_mem_projection hdeclared hprojected
    · exact mem_keys_of_nests hnests

/-- At the greatest depth the relations that a level is asked for are errors. -/
theorem tooDeep_eq (entry : String) :
    (visit.reading catalog entry).tooDeep visit.level =
      visit.asked.map fun name => ⟨visit.level.trace ++ "." ++ name, .tooDeep maxDepth⟩ := by
  rw [Level.tooDeep_eq, Level.names_below, List.filter_filter, asked]
  congr 2
  funext name
  have hnested : (visit.reading catalog entry).nested.contains name = visit.nests name :=
    contains_relations_routed visit name
  rw [contains_named, hnested, Bool.or_and_distrib_left, Bool.or_comm _ (visit.nests name)]
  rfl

/-- The plan of a level at the greatest depth holds no plans of relations, and errors for those
that the level is asked for. -/
theorem Plans.eq_deepest (hplans : visit.Plans catalog 0 plan) :
    ∃ entry, plan = visit.planOf catalog entry
      (visit.asked.map fun name => ⟨visit.level.trace ++ "." ++ name, .tooDeep maxDepth⟩) [] := by
  obtain ⟨reading, hread, rfl⟩ := Level.planWithin_zero_eq_ok_iff.1 hplans.isPlan
  obtain ⟨entry, rfl⟩ := hplans.eq_of_read hread
  exact ⟨entry, by rw [planOf, tooDeep_eq]⟩

end Visit

/-- The plan of a request is made for a visit of the resource with all entries. -/
theorem Catalog.Sound.exists_visit {catalog : Catalog} (hsound : catalog.Sound)
    {resource : String} {target : Target} {params : Params} {plan : Plan}
    (hplan : catalog.plan resource target params = .ok plan) :
    ∃ visit : Visit, visit.Plans catalog maxDepth plan ∧ visit.params = params ∧
      visit.level.trace = resource ∧
      ∀ path, catalog.visit? resource target params path = visit.along? catalog path := by
  obtain ⟨level, hroot, hwithin⟩ := bind_eq_ok_iff.1 hplan
  have hheld := Level.held_of_root hsound hroot
  obtain ⟨_, hread⟩ := hheld.exists_read hsound {}
  obtain ⟨entry, capability, hcapability, -⟩ := Level.read_eq_ok_iff.1 hread
  refine ⟨⟨level, capability, params⟩, ⟨hheld, ⟨entry, hcapability⟩, hwithin⟩, rfl, ?_, ?_⟩
  · obtain ⟨found, hfound, rfl⟩ := Level.root_eq_ok_iff.1 hroot
    exact hsound.resourceNamed hfound
  · intro path
    simp [Catalog.visit?, hroot, Except.toOption, Visit.ofLevel?, hcapability]

end RestQuery
