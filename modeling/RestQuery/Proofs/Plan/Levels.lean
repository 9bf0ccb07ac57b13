import RestQuery.Plan.Compile
import RestQuery.Proofs.Catalog.Integrity
import RestQuery.Proofs.Plan.Tree

/-!
# Levels of a catalog without a fault

In a catalog without a fault every level that a request comes to has a resource of the
catalog, so that its plan can be made to any depth.  The plan holds what the level
reads, and the plans of its relations are those of the levels that they lead to.

Main statements: `Level.exists_planWithin` and `Level.Gives.relation`.
-/

namespace RestQuery

/-- The relation through which a resource is reached. -/
def Catalog.relation? (catalog : Catalog) : Referrer → Option Relation
  | .list | .single => none
  | .nested parent relation _ =>
    (catalog.resources.get? parent).bind (·.relations.get? relation)

namespace Level

variable {catalog : Catalog} {level child : Level}

/-- A level is at a resource that the catalog holds under its own name, and comes
through the relation that its referrer names. -/
structure Held (catalog : Catalog) (level : Level) : Prop where
  resource : catalog.resources.get? level.resource.name = some level.resource
  via : level.via = catalog.relation? level.referrer

/-- The relation that leads to a level is one of a resource of the catalog. -/
theorem Held.exists_of_via (hheld : level.Held catalog) {relation : Relation}
    (hvia : level.via = some relation) :
    ∃ parent name resource, catalog.resources.get? parent = some resource ∧
      resource.relations.get? name = some relation := by
  rw [hheld.via] at hvia
  cases hreferrer : level.referrer with
  | list | single =>
      rw [hreferrer] at hvia
      cases hvia
  | nested parent name parentSingle =>
      rw [hreferrer] at hvia
      obtain ⟨resource, hresource, hrelation⟩ := Option.bind_eq_some_iff.1 hvia
      exact ⟨parent, name, resource, hresource, hrelation⟩

theorem root_eq_ok_iff {name : String} {target : Target} :
    root catalog name target = .ok level ↔
      ∃ resource, catalog.resources.get? name = some resource ∧
        level = { resource, referrer := target.referrer, trace := resource.name } := by
  simp only [root, bind_eq_ok_iff, Catalog.resource_eq_ok_iff, pure_eq_ok_iff]
  simp only [eq_comm (a := level)]
  rfl

theorem child_eq_ok_iff {relation : Relation} :
    level.child catalog relation = .ok child ↔
      ∃ resource, catalog.resources.get? relation.target = some resource ∧
        child =
          { resource
            referrer := .nested level.resource.name relation.name level.isSingle
            via := some relation
            trace := level.trace ++ "." ++ relation.name } := by
  simp only [Level.child, bind_eq_ok_iff, Catalog.resource_eq_ok_iff, pure_eq_ok_iff]
  simp only [eq_comm (a := child)]

theorem held_of_root (hsound : catalog.Sound) {name : String} {target : Target}
    (hroot : root catalog name target = .ok level) : level.Held catalog := by
  obtain ⟨resource, hget, rfl⟩ := root_eq_ok_iff.1 hroot
  refine ⟨?_, ?_⟩
  · rw [hsound.resourceNamed hget]
    exact hget
  · cases target <;> rfl

theorem Held.sound (hheld : level.Held catalog) (hsound : catalog.Sound) :
    level.resource.Sound catalog :=
  hsound.resourceSound hheld.resource

/-- A relation leads from a level of the catalog to a level of the catalog. -/
theorem Held.of_child (hheld : level.Held catalog) (hsound : catalog.Sound) {name : String}
    {relation : Relation} (hrelation : level.resource.relations.get? name = some relation)
    (hchild : level.child catalog relation = .ok child) : child.Held catalog := by
  obtain ⟨resource, hget, rfl⟩ := child_eq_ok_iff.1 hchild
  have hname : relation.name = name := (hheld.sound hsound).relationNamed hrelation
  refine ⟨?_, ?_⟩
  · rw [hsound.resourceNamed hget]
    exact hget
  · rw [Catalog.relation?, hheld.resource, Option.bind_some, hname]
    exact hrelation.symm

theorem Held.exists_child (hheld : level.Held catalog) (hsound : catalog.Sound)
    {name : String} {relation : Relation}
    (hrelation : level.resource.relations.get? name = some relation) :
    ∃ child, level.child catalog relation = .ok child := by
  obtain ⟨target, htarget⟩ := (hheld.sound hsound).hasTarget hrelation
  exact ⟨_, child_eq_ok_iff.2 ⟨target, htarget, rfl⟩⟩

/-! ## Reading a level -/

variable {params : Params} {reading : Reading}

theorem capability_eq_ok_iff {entry : String} {capability : Capability} :
    level.capability = .ok (entry, capability) ↔
      ∃ declared, level.resource.capability level.referrer = .ok (entry, declared) ∧
        capability = if level.isSingle then declared.forSingleItem else declared := by
  simp only [Level.capability, bind_eq_ok_iff, pure_eq_ok_iff, Prod.exists, Prod.mk.injEq]
  constructor
  · rintro ⟨name, declared, hdeclared, rfl, rfl⟩
    exact ⟨declared, hdeclared, rfl⟩
  · rintro ⟨declared, hdeclared, rfl⟩
    exact ⟨entry, declared, hdeclared, rfl, rfl⟩

theorem read_eq_ok_iff :
    level.read catalog params = .ok reading ↔
      ∃ entry capability, level.capability = .ok (entry, capability) ∧
        reading = level.readWith catalog entry capability params := by
  simp only [Level.read, bind_eq_ok_iff, pure_eq_ok_iff, Prod.exists]
  simp only [eq_comm (a := reading)]

/-- Parameters can be read at every level of the catalog. -/
theorem Held.exists_read (hheld : level.Held catalog) (hsound : catalog.Sound)
    (params : Params) : ∃ reading, level.read catalog params = .ok reading := by
  obtain ⟨⟨entry, declared⟩, hdeclared⟩ :=
    Resource.capability_isOk level.referrer (hheld.sound hsound).hasDefault
  have hcapability := capability_eq_ok_iff.2 ⟨declared, hdeclared, rfl⟩
  exact ⟨_, read_eq_ok_iff.2 ⟨entry, _, hcapability, rfl⟩⟩

theorem get?_of_mem_below {name : String} {relation : Relation} {nested : Option Params}
    (hmem : (name, relation, nested) ∈ reading.below level) :
    level.resource.relations.get? name = some relation := by
  obtain ⟨wanted, -, hget⟩ := List.mem_filterMap.1 hmem
  obtain ⟨found, hfound, heq⟩ := Option.map_eq_some_iff.1 hget
  simp only [Prod.mk.injEq] at heq
  obtain ⟨rfl, rfl, -⟩ := heq
  exact hfound

/-! ## Plans of levels -/

variable {depth : Nat} {plan : Plan}

/-- At the greatest depth a plan has no relations, and those that are asked for are errors. -/
theorem planWithin_zero_eq_ok_iff :
    level.planWithin catalog 0 params = .ok plan ↔
      ∃ reading, level.read catalog params = .ok reading ∧
        plan = reading.plan level (reading.tooDeep level) [] := by
  simp only [planWithin, bind_eq_ok_iff, pure_eq_ok_iff]
  simp only [eq_comm (a := plan)]

/-- The plan of a relation that is followed from a level, given its name, the relation
and the parameters for its own level. -/
def Follows (catalog : Catalog) (level : Level) (depth : Nat)
    (entry : String × Relation × Option Params) (result : String × Plan) : Prop :=
  entry.1 = result.1 ∧ ∃ child, level.child catalog entry.2.1 = .ok child ∧
    child.planWithin catalog depth (entry.2.2.getD {}) = .ok result.2

/-- Above the greatest depth a plan follows the relations that its level is asked for. -/
theorem planWithin_succ_eq_ok_iff :
    level.planWithin catalog (depth + 1) params = .ok plan ↔
      ∃ reading relations, level.read catalog params = .ok reading ∧
        List.Forall₂ (level.Follows catalog depth) (reading.below level) relations ∧
        plan = reading.plan level [] relations := by
  have hstep : ∀ (entry : String × Relation × Option Params) (result : String × Plan),
      (do
        let child ← level.child catalog entry.2.1
        return (entry.1, ← planWithin catalog depth child (entry.2.2.getD {})))
          = Except.ok (ε := CatalogError) result ↔
        level.Follows catalog depth entry result := by
    intro entry result
    simp only [Follows, bind_eq_ok_iff, pure_eq_ok_iff]
    constructor
    · rintro ⟨child, hchild, plan, hplan, rfl⟩
      exact ⟨rfl, child, hchild, hplan⟩
    · rintro ⟨hname, child, hchild, hplan⟩
      exact ⟨child, hchild, result.2, hplan, Prod.ext hname rfl⟩
  simp only [planWithin, bind_eq_ok_iff, pure_eq_ok_iff, mapM_eq_ok_iff, hstep]
  constructor
  · rintro ⟨reading, hread, relations, hrelations, rfl⟩
    exact ⟨reading, relations, hread, hrelations, rfl⟩
  · rintro ⟨reading, relations, hread, hrelations, rfl⟩
    exact ⟨reading, hread, relations, hrelations, rfl⟩

/-- A plan can be made from every level, however long the relations go on. -/
theorem exists_planWithin (hsound : catalog.Sound) (depth : Nat) (hheld : level.Held catalog)
    (params : Params) : ∃ plan, level.planWithin catalog depth params = .ok plan := by
  induction depth generalizing level params with
  | zero =>
      obtain ⟨reading, hread⟩ := hheld.exists_read hsound params
      exact ⟨_, planWithin_zero_eq_ok_iff.2 ⟨reading, hread, rfl⟩⟩
  | succ depth ih =>
      obtain ⟨reading, hread⟩ := hheld.exists_read hsound params
      have hbelow : ∀ entry ∈ reading.below level,
          ∃ result, level.Follows catalog depth entry result := by
        rintro ⟨name, relation, nested⟩ hmem
        have hrelation := get?_of_mem_below hmem
        obtain ⟨child, hchild⟩ := hheld.exists_child hsound hrelation
        obtain ⟨plan, hplan⟩ := ih (hheld.of_child hsound hrelation hchild) (nested.getD {})
        exact ⟨(name, plan), rfl, child, hchild, hplan⟩
      obtain ⟨relations, hrelations⟩ := exists_forall₂ hbelow
      exact ⟨_, planWithin_succ_eq_ok_iff.2 ⟨reading, relations, hread, hrelations, rfl⟩⟩

/-- A plan is one that can be made from a level, but for its errors, which move up. -/
def Gives (catalog : Catalog) (level : Level) (plan : Plan) : Prop :=
  ∃ depth params full, level.planWithin catalog depth params = .ok full ∧
    plan = { full with errors := plan.errors }

theorem gives_of_planWithin (hplan : level.planWithin catalog depth params = .ok plan) :
    level.Gives catalog plan :=
  ⟨depth, params, plan, hplan, by cases plan; rfl⟩

/-- The plan of a level holds what the level reads. -/
theorem Gives.exists_reading (hgives : level.Gives catalog plan) :
    ∃ params reading depthErrors relations, level.read catalog params = .ok reading ∧
      plan = { reading.plan level depthErrors relations with errors := plan.errors } := by
  obtain ⟨depth, params, full, hplan, heq⟩ := hgives
  cases depth with
  | zero =>
      obtain ⟨reading, hread, rfl⟩ := planWithin_zero_eq_ok_iff.1 hplan
      exact ⟨params, reading, _, _, hread, heq⟩
  | succ depth =>
      obtain ⟨reading, relations, hread, -, rfl⟩ := planWithin_succ_eq_ok_iff.1 hplan
      exact ⟨params, reading, _, _, hread, heq⟩

/-- A plan says what was read at its level. -/
theorem Gives.read (hgives : level.Gives catalog plan) :
    ∃ params reading, level.read catalog params = .ok reading ∧
      plan.resource = level.resource.name ∧ plan.referrer = reading.entry ∧
      plan.filters = (reading.apply level).clauses ∧
      plan.joins = (reading.apply level).joins := by
  obtain ⟨params, reading, _, _, hread, heq⟩ := hgives.exists_reading
  refine ⟨params, reading, hread, ?_⟩
  rw [heq]
  exact ⟨rfl, rfl, rfl, rfl⟩

/-- The plans of relations are those of the levels that the relations lead to. -/
theorem Gives.relation (hgives : level.Gives catalog plan) {entry : String × Plan}
    (hentry : entry ∈ plan.relations) :
    ∃ relation child, level.resource.relations.get? entry.1 = some relation ∧
      level.child catalog relation = .ok child ∧ child.Gives catalog entry.2 := by
  obtain ⟨depth, params, full, hplan, heq⟩ := hgives
  rw [heq] at hentry
  cases depth with
  | zero =>
      obtain ⟨reading, -, rfl⟩ := planWithin_zero_eq_ok_iff.1 hplan
      cases hentry
  | succ depth =>
      obtain ⟨reading, relations, -, hrelations, rfl⟩ := planWithin_succ_eq_ok_iff.1 hplan
      obtain ⟨result, hresult, rfl⟩ := List.mem_map.1 hentry
      obtain ⟨⟨name, relation, nested⟩, hmem, rfl, child, hchild, hsub⟩ :=
        exists_of_mem_right hrelations hresult
      exact ⟨relation, child, get?_of_mem_below hmem, hchild, depth, _, _, hsub, rfl⟩

end Level

namespace Sample

/-- One area with those of its cabins that have a certain name. -/
def request : Params := ⟨.ofList [("cabins.name", .string "~lake")]⟩

def plan : Plan := (catalog.plan "area" .single request).toOption.getD default

theorem plan_request : catalog.plan "area" .single request = .ok plan :=
  eq_ok_of_isOk default (by decide +kernel)

end Sample

end RestQuery
