import RestQuery.Catalog.Resolve
import RestQuery.Proofs.Outcome

/-!
# Integrity of catalogs

The catalog of a document without a fault holds every resource and relation under
its own name, each relation leads to a resource that it holds too, and each
resource can be reached in every way.  Relations may form cycles.

Main statement: `Document.sound_of_resolve`.
-/

namespace RestQuery

/-- The parts of a resource that plans and statements look up by name. -/
structure Resource.Sound (catalog : Catalog) (resource : Resource) : Prop where
  hasDefault : (resource.capabilities.get? defaultReferrer).isSome
  relationNamed : ∀ {name relation},
    resource.relations.get? name = some relation → relation.name = name
  hasTarget : ∀ {name relation}, resource.relations.get? name = some relation →
    ∃ target, catalog.resources.get? relation.target = some target

structure Catalog.Sound (catalog : Catalog) : Prop where
  resourceNamed : ∀ {name resource},
    catalog.resources.get? name = some resource → resource.name = name
  resourceSound : ∀ {name resource},
    catalog.resources.get? name = some resource → resource.Sound catalog

/-! ## From declarations to entries of the catalog -/

theorem ResourceDecl.resolve_eq_ok_iff {decl : ResourceDecl} {resource : Resource} :
    decl.resolve = .ok resource ↔
      ∃ capabilities, List.Forall₂
          (fun entry result => entry.1 = result.1 ∧
            entry.2.resolve ⟨decl.name, entry.1⟩ = .ok result.2)
          decl.capabilities.entries capabilities ∧
        resource =
          { name := decl.name, schema := decl.schema, table := decl.table, id := decl.id,
            searchColumn := decl.searchColumn, fields := decl.fields,
            relations := decl.relations.mapEntries RelationDecl.resolve,
            capabilities := .ofList capabilities } := by
  have hstep : ∀ (entry : String × CapabilityDecl) (result : String × Capability),
      (do return (entry.1, ← entry.2.resolve ⟨decl.name, entry.1⟩)) =
          Except.ok (ε := CatalogError) result ↔
        entry.1 = result.1 ∧ entry.2.resolve ⟨decl.name, entry.1⟩ = .ok result.2 := by
    intro entry result
    simp only [bind_eq_ok_iff, pure_eq_ok_iff]
    constructor
    · rintro ⟨capability, hcapability, rfl⟩
      exact ⟨rfl, hcapability⟩
    · rintro ⟨hname, hcapability⟩
      exact ⟨result.2, hcapability, Prod.ext hname rfl⟩
  simp only [resolve, bind_eq_ok_iff, mapM_eq_ok_iff, pure_eq_ok_iff, hstep]
  simp only [eq_comm (a := resource)]

namespace Document

/-- A document without a fault means the resources that its declarations mean, by name. -/
theorem resolve_eq_ok_iff {document : Document} {catalog : Catalog} :
    document.resolve = .ok catalog ↔
      document.fault? = none ∧
        ∃ resources, List.Forall₂
            (fun decl entry => decl.name = entry.1 ∧ decl.resolve = .ok entry.2)
            document.resources resources ∧
          catalog = ⟨.ofList resources⟩ := by
  have hstep : ∀ (decl : ResourceDecl) (entry : String × Resource),
      (do return (decl.name, ← decl.resolve)) = Except.ok (ε := CatalogError) entry ↔
        decl.name = entry.1 ∧ decl.resolve = .ok entry.2 := by
    intro decl entry
    simp only [bind_eq_ok_iff, pure_eq_ok_iff]
    constructor
    · rintro ⟨resource, hresource, rfl⟩
      exact ⟨rfl, hresource⟩
    · rintro ⟨hname, hresource⟩
      exact ⟨entry.2, hresource, Prod.ext hname rfl⟩
  unfold resolve
  split
  next fault hfault => simp [hfault]
  next hfault =>
    simp only [hfault, bind_eq_ok_iff, mapM_eq_ok_iff, pure_eq_ok_iff, hstep, true_and]
    simp only [eq_comm (a := catalog)]

variable {document : Document} {catalog : Catalog}

/-- Each resource of a catalog is the meaning of a declaration with its name. -/
theorem exists_decl_of_get? (hresolve : document.resolve = .ok catalog) {name : String}
    {resource : Resource} (hget : catalog.resources.get? name = some resource) :
    ∃ decl ∈ document.resources, decl.name = name ∧ decl.resolve = .ok resource := by
  obtain ⟨-, resources, hresources, rfl⟩ := resolve_eq_ok_iff.1 hresolve
  have hmem : (name, resource) ∈ resources := Table.mem_of_get?_ofList hget
  obtain ⟨decl, hdecl, hname, hresource⟩ := exists_of_mem_right hresources hmem
  exact ⟨decl, hdecl, hname, hresource⟩

/-- Each declared resource is found in the catalog. -/
theorem exists_get?_of_mem (hresolve : document.resolve = .ok catalog) {decl : ResourceDecl}
    (hdecl : decl ∈ document.resources) :
    ∃ resource, catalog.resources.get? decl.name = some resource := by
  obtain ⟨-, resources, hresources, rfl⟩ := resolve_eq_ok_iff.1 hresolve
  obtain ⟨entry, hentry, hname, -⟩ := exists_of_mem_left hresources hdecl
  rw [hname]
  exact Option.isSome_iff_exists.1 (Table.isSome_get?_ofList hentry)

theorem hasDefault_of_resourceFault? {decl : ResourceDecl} {resource : Resource}
    (hfault : document.resourceFault? decl = none) (hresolve : decl.resolve = .ok resource) :
    (resource.capabilities.get? defaultReferrer).isSome := by
  have hdeclared : decl.capabilities.contains defaultReferrer := by
    unfold resourceFault? at hfault
    split at hfault
    · cases hfault
    split at hfault
    · cases hfault
    next hcontains => simpa using hcontains
  obtain ⟨capability, hget⟩ := Option.isSome_iff_exists.1 hdeclared
  obtain ⟨capabilities, hcapabilities, rfl⟩ := ResourceDecl.resolve_eq_ok_iff.1 hresolve
  obtain ⟨entry, hentry, hname, -⟩ :=
    exists_of_mem_left hcapabilities (Table.get?_eq_some_iff.1 hget)
  have hfound := Table.isSome_get?_ofList hentry
  rwa [← hname] at hfound

/-- A relation without a fault leads to a declared resource. -/
theorem exists_target_of_relationFault? {decl : ResourceDecl} {name : String}
    {relation : RelationDecl} (hfault : document.relationFault? decl name relation = none) :
    ∃ target ∈ document.resources, target.name = relation.target := by
  unfold relationFault? at hfault
  split at hfault
  · cases hfault
  next hfind =>
    obtain ⟨target, htarget⟩ := Option.ne_none_iff_exists'.1 (by simpa using hfind)
    refine ⟨target, List.mem_of_find?_eq_some htarget, ?_⟩
    simpa using List.find?_some htarget

/-- The relations of a resource are the declared ones, each under its name. -/
theorem get?_relations_of_resolve {decl : ResourceDecl} {resource : Resource}
    (hresolve : decl.resolve = .ok resource) (name : String) :
    resource.relations.get? name = (decl.relations.get? name).map (RelationDecl.resolve name) := by
  obtain ⟨capabilities, -, rfl⟩ := ResourceDecl.resolve_eq_ok_iff.1 hresolve
  exact Table.get?_mapEntries _ _ _

/-- The catalog of an accepted document is in order. -/
theorem sound_of_resolve (hresolve : document.resolve = .ok catalog) : catalog.Sound := by
  obtain ⟨-, hrelations, hresources⟩ := fault?_eq_none_iff.1 (resolve_eq_ok_iff.1 hresolve).1
  refine ⟨fun hget => ?_, fun hget => ?_⟩
  · obtain ⟨decl, -, hname, hresource⟩ := exists_decl_of_get? hresolve hget
    obtain ⟨_, -, rfl⟩ := ResourceDecl.resolve_eq_ok_iff.1 hresource
    exact hname
  · obtain ⟨decl, hdecl, -, hresource⟩ := exists_decl_of_get? hresolve hget
    refine ⟨hasDefault_of_resourceFault? (hresources decl hdecl) hresource, ?_, ?_⟩
    all_goals
      intro name relation hrelation
      rw [get?_relations_of_resolve hresource, Option.map_eq_some_iff] at hrelation
      obtain ⟨declared, hdeclared, rfl⟩ := hrelation
    · rfl
    · have hfault := hrelations decl hdecl _ (Table.get?_eq_some_iff.1 hdeclared)
      obtain ⟨target, htarget, hname⟩ := exists_target_of_relationFault? hfault
      obtain ⟨found, hfound⟩ := exists_get?_of_mem hresolve htarget
      rw [hname] at hfound
      exact ⟨found, hfound⟩

end Document

/-! ## A catalog with a cycle -/

namespace Sample

/-- Areas with cabins, each of which leads back to its area. -/
def document : Document :=
  { resources :=
      [ { name := "area"
          table := "areas"
          fields := .ofList [("id", .uuid), ("name", .string)]
          relations := .ofList [("cabins", ⟨"cabin", .toMany, "id", "area_id", none⟩)]
          capabilities := .ofList
            [("default",
              { fullFields := ["id", "name"]
                defaultRelations := ["cabins"]
                filters := .ofList [("name", {}), ("cabins", {}), ("cabins.name", {})] })] },
        { name := "cabin"
          table := "cabins"
          fields := .ofList [("id", .uuid), ("name", .string), ("area_id", .uuid)]
          relations := .ofList [("area", ⟨"area", .toOne, "area_id", "id", none⟩)]
          capabilities := .ofList
            [("default",
              { fullFields := ["id", "name"]
                defaultRelations := ["area"]
                filters := .ofList [("name", {})] }),
             ("area.single.cabins",
              { fullFields := ["id", "name"]
                defaultRelations := ["area"]
                filters := .ofList [("name", { operators := some [.contains] })] })] } ] }

def catalog : Catalog := document.resolve.toOption.getD {}

theorem resolve_document : document.resolve = .ok catalog := by decide +kernel

end Sample

end RestQuery
