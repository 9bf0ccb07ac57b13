import RestQuery.Proofs.Plan.Visibility

/-!
# What filter keys name

The check of a document and a level of a request each find out what the key of a filter names.
The check asks for a relation first and knows link fields by the name of the capability entry; a
level asks for a relation last and knows the link table through which it is reached.  They find the
same unless the two link fields differ, or one has the name of a relation.

Main statement: `Document.filters_resolve`.
-/

namespace RestQuery

theorem Text.splitOnce_eq_none_iff {separator : Char} {s : String} :
    splitOnce separator s = none ↔ separator ∉ s.toList := by
  constructor
  · intro hnone
    cases hparts : split separator s with
    | nil => exact absurd hparts (split_ne_nil separator s)
    | cons part rest =>
        cases rest with
        | cons second others => simp [splitOnce, hparts] at hnone
        | nil =>
            have hjoin := join_split separator s
            rw [hparts, join_singleton] at hjoin
            rw [← hjoin]
            exact not_mem_of_mem_split (hparts ▸ List.mem_cons_self)
  · intro hfree
    rw [Option.eq_none_iff_forall_ne_some]
    rintro ⟨first, rest⟩ hsplit
    rw [toList_of_splitOnce hsplit] at hfree
    exact hfree (List.mem_append_right _ List.mem_cons_self)

@[simp]
theorem Table.keys_mapEntries (f : String → α → β) (table : Table α) :
    (table.mapEntries f).keys = table.keys := by
  simp [keys, mapEntries]

/-! ## Grammars -/

/-- There are filters for the field types that are neither objects nor geometries. -/
def FieldType.Filterable (type : FieldType) : Prop := type ≠ .object ∧ type ≠ .geometry

/-- A field type is one for filters exactly if some value is read as one. -/
theorem FieldType.filterable_iff {type : FieldType} {field : FieldRef} :
    type.Filterable ↔
      ∃ value clauses, Filter.compile type field {} (.text value) = .ok clauses := by
  constructor
  · rintro ⟨hobject, hgeometry⟩
    refine ⟨"", [.onField .isNotNull field [], .onField .nonEmpty field []], ?_⟩
    cases type with
    | object => exact absurd rfl hobject
    | geometry => exact absurd rfl hgeometry
    | _ => rfl
  · rintro ⟨value, clauses, hcompile⟩
    constructor <;> rintro rfl <;> cases hcompile

/-- What a filter is about has a grammar: some value means something. -/
def Level.Subject.HasGrammar : Level.Subject → Prop
  | .field shown type =>
    ∃ value clauses, Filter.compile type shown {} (.text value) = .ok clauses
  | .existence relation => ∃ value result, Filter.compileExistence relation {} value = .ok result

namespace Document

/-- What filters can be about. -/
def FilterTarget.Filterable : FilterTarget → Prop
  | .existence => True
  | .field type => type.Filterable
  | .unknown => False

variable {document : Document} {catalog : Catalog} {decl : ResourceDecl} {resource : Resource}
  {referrer key : String}

/-- The key of a filter without a fault names something that can be filtered. -/
theorem filterable_of_filterFault? (hfault : document.filterFault? decl referrer key = none) :
    (document.filterTarget decl referrer key).Filterable := by
  rw [filterFault?] at hfault
  cases htarget : document.filterTarget decl referrer key with
  | existence => trivial
  | unknown => simp [htarget] at hfault
  | field type =>
      rw [htarget] at hfault
      constructor <;> rintro rfl <;> cases hfault

/-- The keys of the filters of a capability entry name what filters can be about. -/
theorem filterable_of_mem_filters (hresolve : document.resolve = .ok catalog)
    (hdecl : decl ∈ document.resources) (hresource : decl.resolve = .ok resource)
    {capability : Capability} (hentry : resource.capabilities.get? referrer = some capability)
    (hkey : key ∈ capability.filters.keys) :
    (document.filterTarget decl referrer key).Filterable := by
  obtain ⟨declared, hfault, hmeans⟩ :=
    exists_declared_of_resolve hresolve hdecl hresource hentry
  obtain ⟨_, -, rfl⟩ := CapabilityDecl.resolve_eq_ok_iff.1 hmeans
  rw [capabilityFault?] at hfault
  simp only [Option.or_eq_none_iff, List.findSome?_eq_none_iff] at hfault
  obtain ⟨-, -, -, hfilters, -, -⟩ := hfault
  refine filterable_of_filterFault? (hfilters key ?_)
  rwa [Table.map, Table.keys_mapEntries] at hkey

/-- A key is checked as one for existence if it is the name of a relation and has no point. -/
theorem filterTarget_eq_existence_iff :
    document.filterTarget decl referrer key = .existence ↔
      '.' ∉ key.toList ∧ decl.relations.contains key = true := by
  rw [← Text.splitOnce_eq_none_iff, filterTarget]
  cases hsplit : Text.splitOnce '.' key with
  | none =>
      by_cases hrelation : decl.relations.contains key = true
      · simp [hrelation]
      · cases document.fieldType? decl referrer key <;> simp [hrelation]
  | some parts =>
      obtain ⟨name, field⟩ := parts
      cases htarget : (decl.relations.get? name).bind (document.find? ·.target) with
      | none => simp [htarget]
      | some target => cases htype : target.fields.get? field <;> simp [htarget, htype]

theorem of_resolve (hresource : decl.resolve = .ok resource) :
    resource.name = decl.name ∧ resource.fields = decl.fields ∧
      ∀ name, resource.relations.contains name = decl.relations.contains name := by
  refine ⟨?_, ?_, fun name => ?_⟩
  · obtain ⟨_, -, rfl⟩ := ResourceDecl.resolve_eq_ok_iff.1 hresource
    rfl
  · obtain ⟨_, -, rfl⟩ := ResourceDecl.resolve_eq_ok_iff.1 hresource
    rfl
  · rw [Table.contains, get?_relations_of_resolve hresource, Option.isSome_map, Table.contains]

/-- The resource that is found for a declaration has its fields. -/
theorem exists_get?_of_find? (hresolve : document.resolve = .ok catalog) {name : String}
    (hfind : document.find? name = some decl) :
    ∃ resource, catalog.resources.get? name = some resource ∧ resource.fields = decl.fields := by
  have hdecl := List.mem_of_find?_eq_some hfind
  have hname : decl.name = name := by simpa using List.find?_some hfind
  obtain ⟨resource, hget⟩ := exists_get?_of_mem hresolve hdecl
  obtain ⟨other, hother, hnames, hresource⟩ := exists_decl_of_get? hresolve hget
  have hnodup := (fault?_eq_none_iff.1 (resolve_eq_ok_iff.1 hresolve).1).1
  obtain rfl := List.inj_on_of_nodup_map hnodup hother hdecl hnames
  obtain ⟨_, -, rfl⟩ := ResourceDecl.resolve_eq_ok_iff.1 hresource
  exact ⟨_, hname ▸ hget, rfl⟩

end Document

namespace Level

variable {document : Document} {catalog : Catalog} {level : Level} {decl : ResourceDecl}
  {entry key : String}

/-- What the key of a filter names at a level, as the check of a document says it. -/
def Subject.target : Subject → Document.FilterTarget
  | .field _ type => .field type
  | .existence _ => .existence

/-- The link fields that the check of a document and a level have for a key are the same, and there
are none under the name of a relation.  Only keys without a point that are no fields of the resource
ask for link fields. -/
def LinksAs (level : Level) (document : Document) (entry key : String) : Prop :=
  '.' ∉ key.toList → level.resource.fields.get? key = none →
    level.linkFields.get? key =
      if level.resource.relations.contains key then none
      else (document.linkFieldsFor ⟨level.resource.name, entry⟩).get? key

/-- A key with a point is read alike by the check of a document and by a level. -/
theorem target_subject?_of_splitOnce (hresolve : document.resolve = .ok catalog)
    (hresource : decl.resolve = .ok level.resource) {name field : String}
    (hsplit : Text.splitOnce '.' key = some (name, field))
    (hknown : (document.filterTarget decl entry key).Filterable) :
    (level.subject? catalog key).map Subject.target =
      some (document.filterTarget decl entry key) := by
  simp only [Document.filterTarget, hsplit] at hknown ⊢
  cases htarget : (decl.relations.get? name).bind (document.find? ·.target) with
  | none => simp [htarget, Document.FilterTarget.Filterable] at hknown
  | some target =>
      cases htype : target.fields.get? field with
      | none => simp [htarget, htype, Document.FilterTarget.Filterable] at hknown
      | some type =>
          obtain ⟨relation, hrelation, hfind⟩ := Option.bind_eq_some_iff.1 htarget
          obtain ⟨found, hfound, hfields⟩ := Document.exists_get?_of_find? hresolve hfind
          have hdeclared := Document.get?_relations_of_resolve hresource name
          rw [hrelation, Option.map_some] at hdeclared
          have htarget : (RelationDecl.resolve name relation).target = relation.target := rfl
          simp [subject?, hsplit, hdeclared, htarget, hfound, hfields, htype, Subject.target]

/-- A key without a point is read alike if the link fields are. -/
theorem target_subject?_of_point (hresolve : document.resolve = .ok catalog)
    (hheld : level.Held catalog) (hresource : decl.resolve = .ok level.resource)
    (hpoint : Text.splitOnce '.' key = none)
    (hknown : (document.filterTarget decl entry key).Filterable) :
    (level.subject? catalog key).map Subject.target =
        some (document.filterTarget decl entry key) ↔
      (level.resource.fields.get? key = none → level.linkFields.get? key =
        if level.resource.relations.contains key then none
        else (document.linkFieldsFor ⟨level.resource.name, entry⟩).get? key) := by
  obtain ⟨hname, hfields, hcontains⟩ := Document.of_resolve hresource
  simp only [Document.filterTarget, Document.fieldType?, hpoint, ← hname, ← hfields,
    ← hcontains] at hknown ⊢
  simp only [subject?, hpoint]
  cases hfield : level.resource.fields.get? key with
  | some type =>
      have hnone : level.resource.relations.contains key = false := by
        rw [Bool.eq_false_iff]
        intro hrelation
        obtain ⟨relation, hrelation⟩ := Option.isSome_iff_exists.1 hrelation
        rw [Document.field_of_relation hresolve hheld.resource hrelation] at hfield
        cases hfield
      simp [hnone, Subject.target]
  | none =>
      cases hrelation : level.resource.relations.get? key with
      | some relation =>
          have hcontained : level.resource.relations.contains key = true := by
            rw [Table.contains, hrelation, Option.isSome_some]
          cases level.linkFields.get? key <;> simp [hcontained, Subject.target]
      | none =>
          have hcontained : level.resource.relations.contains key = false := by
            rw [Table.contains, hrelation, Option.isSome_none]
          cases htype : (document.linkFieldsFor ⟨level.resource.name, entry⟩).get? key with
          | none => simp [hfield, hcontained, htype, Document.FilterTarget.Filterable] at hknown
          | some type =>
              cases level.linkFields.get? key <;> simp [hcontained, Subject.target]

/-- A level reads the key of a filter as the check of the document does if the link fields of both
are the same. -/
theorem target_subject?_iff (hresolve : document.resolve = .ok catalog)
    (hheld : level.Held catalog) (hresource : decl.resolve = .ok level.resource)
    (hknown : (document.filterTarget decl entry key).Filterable) :
    (level.subject? catalog key).map Subject.target =
        some (document.filterTarget decl entry key) ↔ level.LinksAs document entry key := by
  rw [LinksAs, ← Text.splitOnce_eq_none_iff]
  cases hsplit : Text.splitOnce '.' key with
  | none =>
      rw [target_subject?_of_point hresolve hheld hresource hsplit hknown]
      exact ⟨fun hlinks _ => hlinks, fun hlinks => hlinks rfl⟩
  | some parts =>
      have hsame := target_subject?_of_splitOnce hresolve hresource hsplit hknown
      exact ⟨nofun, fun _ => hsame⟩

/-- If no link table has a field with the name of a relation of the resource to which it leads, and
no two relations share a capability entry, the link fields are the same. -/
theorem linksAs_of_apart (hresolve : document.resolve = .ok catalog)
    (hheld : level.Held catalog) (hrooted : level.Rooted)
    (htarget : ∀ relation, level.via = some relation →
      catalog.resources.get? relation.target = some level.resource)
    (hresource : decl.resolve = .ok level.resource) (hentry : entry ∈ level.referrer.names)
    (hknown : (document.filterTarget decl entry key).Filterable)
    (hapart : document.LinksApart) (hdistinct : document.DistinctReferrers) :
    level.LinksAs document entry key := by
  intro hpoint hfield
  rw [← Text.splitOnce_eq_none_iff] at hpoint
  obtain ⟨hname, hfields, hcontains⟩ := Document.of_resolve hresource
  split
  next hrelation =>
    rw [Option.eq_none_iff_forall_ne_some]
    intro type htype
    obtain ⟨relation, link, hvia, hlink, hfound⟩ :=
      exists_of_linkFields (Option.isSome_iff_exists.2 ⟨type, htype⟩)
    obtain ⟨_, _, outer, houter, hdeclared⟩ := hheld.exists_of_via hvia
    have hnone := hapart.of_link hresolve houter hdeclared hlink (htarget relation hvia) hfound
    rw [Table.contains, hnone] at hrelation
    cases hrelation
  next hrelation =>
    rw [Bool.not_eq_true] at hrelation
    simp only [Document.filterTarget, Document.fieldType?, hpoint, ← hname, ← hfields,
      ← hcontains, hrelation, hfield] at hknown
    cases htype : (document.linkFieldsFor ⟨level.resource.name, entry⟩).get? key with
    | none => simp [htype, Document.FilterTarget.Filterable] at hknown
    | some type =>
        exact hheld.get?_linkFields_of_distinct hrooted hresolve hdistinct hentry htype

/-- The entry that serves a level is one of the names for the way of reaching it. -/
theorem mem_names_of_capability {capability : Capability}
    (hcapability : level.capability = .ok (entry, capability)) :
    entry ∈ level.referrer.names := by
  obtain ⟨declared, hdeclared, -⟩ := capability_eq_ok_iff.1 hcapability
  obtain ⟨passed, rest, hnames, -, -⟩ := Resource.capability_eq_ok_iff.1 hdeclared
  rw [Referrer.names_eq, hnames]
  exact List.mem_append_right _ List.mem_cons_self

/-- The keys of the filters of a level name what filters can be about. -/
theorem filterable_of_mem_filters (hresolve : document.resolve = .ok catalog)
    (hdecl : decl ∈ document.resources) (hresource : decl.resolve = .ok level.resource)
    {capability : Capability} (hcapability : level.capability = .ok (entry, capability))
    (hkey : key ∈ capability.filters.keys) :
    (document.filterTarget decl entry key).Filterable := by
  obtain ⟨declared, hentry, rfl⟩ := exists_declared_of_capability hcapability
  split at hkey
  · cases hkey
  · exact Document.filterable_of_mem_filters hresolve hdecl hresource hentry hkey

/-- What is read as the check of the document has it is a filter with a grammar. -/
theorem exists_subject (hknown : (document.filterTarget decl entry key).Filterable)
    (hsame : (level.subject? catalog key).map Subject.target =
      some (document.filterTarget decl entry key)) :
    ∃ subject, level.subject? catalog key = some subject ∧ subject.HasGrammar ∧
      ∀ (capability : Capability) (parameter : Parameter), parameter.key = key →
        level.filter catalog capability parameter =
          .ok ⟨parameter, subject, (capability.filters.get? key).getD {}⟩ := by
  obtain ⟨subject, hsubject, htarget⟩ := Option.map_eq_some_iff.1 hsame
  refine ⟨subject, hsubject, ?_, fun capability parameter hkey => ?_⟩
  · rw [← htarget] at hknown
    cases subject with
    | field shown type => exact FieldType.filterable_iff.1 hknown
    | existence relation => exact ⟨"", (.inner, []), rfl⟩
  · rw [filter, hkey, hsubject]

end Level

/-- A level that a path leads to is that of the request's resource or comes through a relation. -/
theorem Visit.rooted {catalog : Catalog} {resource : String} {target : Target} {params : Params}
    {path : List String} {visit : Visit}
    (hvisit : catalog.visit? resource target params path = some visit) : visit.level.Rooted := by
  intro hnone
  rcases List.eq_nil_or_concat path with rfl | ⟨path, name, rfl⟩
  · obtain ⟨hroot, -, -⟩ := Catalog.visit?_nil_eq_some_iff.1 hvisit
    obtain ⟨found, -, hlevel⟩ := Level.root_eq_ok_iff.1 hroot
    rw [hlevel]
    cases target
    · exact .inl rfl
    · exact .inr rfl
  · rw [List.concat_eq_append, Catalog.visit?_append_singleton] at hvisit
    obtain ⟨parent, -, hbelow⟩ := Option.bind_eq_some_iff.1 hvisit
    obtain ⟨relation, hrelation, -⟩ := below?_eq_some_iff.1 hbelow
    rw [via_of_below? hbelow, hrelation] at hnone
    cases hnone

/-- At each node, the keys of the filters of its capability entry name what the check of the
document takes them for, exactly if the link fields for a key are the same; this is so if no link
table has a field with the name of a relation of the resource to which it leads and no two relations
share a capability entry.  The check takes a key for the existence of related rows if it is the name
of a relation without a point, and else for a field of a type that has filters.  A key that names
what it is taken for is always a filter, for which some value has a meaning. -/
theorem Document.filters_resolve {document : Document} {catalog : Catalog}
    (hresolve : document.resolve = .ok catalog) {resource : String} {target : Target}
    {params : Params} {plan node : Plan} {path : List String}
    (hplan : catalog.plan resource target params = .ok plan)
    (hnode : plan.along? path = some node) :
    ∃ visit, ∃ decl ∈ document.resources,
      catalog.visit? resource target params path = some visit ∧
      visit.level.trace = Text.join '.' (resource :: path) ∧
      visit.level.capability = .ok (node.referrer, visit.capability) ∧
      decl.resolve = .ok visit.level.resource ∧
      ∀ key ∈ visit.capability.filters.keys,
        (document.filterTarget decl node.referrer key).Filterable ∧
        (document.filterTarget decl node.referrer key = .existence ↔
          '.' ∉ key.toList ∧ visit.level.resource.relations.contains key = true) ∧
        ((visit.level.subject? catalog key).map Level.Subject.target =
            some (document.filterTarget decl node.referrer key) ↔
          visit.level.LinksAs document node.referrer key) ∧
        (visit.level.LinksAs document node.referrer key →
          ∃ subject, visit.level.subject? catalog key = some subject ∧ subject.HasGrammar ∧
            ∀ parameter : Parameter, parameter.key = key →
              ∃ rule, visit.capability.filters.get? key = some rule ∧
                visit.level.filter catalog visit.capability parameter =
                  .ok ⟨parameter, subject, rule⟩) ∧
        (document.LinksApart → document.DistinctReferrers →
          visit.level.LinksAs document node.referrer key) := by
  have hsound := sound_of_resolve hresolve
  obtain ⟨visit, left, full, hvisit, htrace, hplans, heq⟩ :=
    hsound.exists_plans_of_along? hplan hnode
  have hreferrer : node.referrer = full.referrer := congrArg (·.referrer) heq
  have hcapability : visit.level.capability = .ok (node.referrer, visit.capability) :=
    hreferrer ▸ hplans.capability_eq
  obtain ⟨decl, hdecl, -, hresource⟩ := exists_decl_of_get? hresolve hplans.held.resource
  refine ⟨visit, decl, hdecl, hvisit, htrace, hcapability, hresource, fun key hkey => ?_⟩
  have hknown := Level.filterable_of_mem_filters hresolve hdecl hresource hcapability hkey
  have hiff := Level.target_subject?_iff hresolve hplans.held hresource hknown
  refine ⟨hknown, ?_, hiff, fun hlinks => ?_, fun hapart hdistinct => ?_⟩
  · rw [filterTarget_eq_existence_iff, (of_resolve hresource).2.2]
  · obtain ⟨subject, hsubject, hgrammar, hfilter⟩ := Level.exists_subject hknown (hiff.2 hlinks)
    obtain ⟨rule, hrule⟩ := Table.mem_keys_iff.1 hkey
    refine ⟨subject, hsubject, hgrammar, fun parameter hsame => ⟨rule, hrule, ?_⟩⟩
    rw [hfilter visit.capability parameter hsame, hrule, Option.getD_some]
  · exact Level.linksAs_of_apart hresolve hplans.held (Visit.rooted hvisit)
      (fun _ => Visit.target_of_via hvisit) hresource (Level.mem_names_of_capability hcapability)
      hknown hapart hdistinct

namespace Sample

/-- Areas with cabins through a link table with one field.  The cabins of an area have filters for
this field and for the existence of their own area. -/
def filtered (field : String) : Document :=
  { resources :=
      [ { name := "area"
          table := "areas"
          fields := .ofList [("id", .uuid)]
          relations := .ofList
            [("cabins", ⟨"cabin", .toMany, "id", "id", some
               { table := "area_cabins", sourceKey := "area_id", targetKey := "cabin_id",
                 fields := .ofList [(field, .string)] }⟩)]
          capabilities := .ofList [("default", { fullFields := ["id"] })] },
        { name := "cabin"
          table := "cabins"
          fields := .ofList [("id", .uuid), ("area_id", .uuid)]
          relations := .ofList [("area", ⟨"area", .toOne, "area_id", "id", none⟩)]
          capabilities := .ofList
            [("default", { fullFields := ["id"] }),
             ("area.cabins", { fullFields := ["id"],
                               filters := .ofList [("area", {}), (field, {})] })] } ] }

def filteredCatalog (field : String) : Catalog := (filtered field).resolve.toOption.getD {}

/-- The cabins of areas that have an area themselves. -/
def filteredRequest : Params := ⟨.ofList [("cabins.area", .string "")]⟩

def filteredPlan (field : String) : Plan :=
  ((filteredCatalog field).plan "area" .list filteredRequest).toOption.getD default

end Sample

/-- Both filters of the cabins of an area have a grammar if the link field has a name of its own. -/
theorem filters_resolve_cabins :
    ∃ visit,
      (Sample.filteredCatalog "place").visit? "area" .list Sample.filteredRequest ["cabins"] =
        some visit ∧
      ∀ key ∈ visit.capability.filters.keys, ∃ subject,
        visit.level.subject? (Sample.filteredCatalog "place") key = some subject ∧
          subject.HasGrammar := by
  have hresolve : (Sample.filtered "place").resolve = .ok (Sample.filteredCatalog "place") :=
    eq_ok_of_isOk {} (by decide +kernel)
  have hplan : (Sample.filteredCatalog "place").plan "area" .list Sample.filteredRequest =
      .ok (Sample.filteredPlan "place") := eq_ok_of_isOk default (by decide +kernel)
  obtain ⟨node, hnode⟩ : ∃ node, (Sample.filteredPlan "place").along? ["cabins"] = some node :=
    Option.isSome_iff_exists.1 (by decide +kernel)
  have hapart : (Sample.filtered "place").LinksApart := by decide +kernel
  have hdistinct : (Sample.filtered "place").DistinctReferrers :=
    Document.distinctReferrers_of_points (by decide +kernel)
  obtain ⟨visit, decl, -, hvisit, -, -, -, hfilters⟩ :=
    Document.filters_resolve hresolve hplan hnode
  refine ⟨visit, hvisit, fun key hkey => ?_⟩
  obtain ⟨-, -, -, hsubject, hlinks⟩ := hfilters key hkey
  obtain ⟨subject, hfound, hgrammar, -⟩ := hsubject (hlinks hapart hdistinct)
  exact ⟨subject, hfound, hgrammar⟩

/-- A filter for the existence of related rows becomes one for the link field of the same name. -/
theorem filters_resolve_area :
    (Sample.filtered "area").resolve = .ok (Sample.filteredCatalog "area") ∧
      (Sample.filteredCatalog "area").plan "area" .list Sample.filteredRequest =
        .ok (Sample.filteredPlan "area") ∧
      (Sample.filteredPlan "area").errors = [] ∧
      ∃ visit, (Sample.filteredCatalog "area").visit? "area" .list Sample.filteredRequest
          ["cabins"] = some visit ∧
        visit.level.capability = .ok ("area.cabins", visit.capability) ∧
        visit.capability.filters.contains "area" = true ∧
        (∃ decl ∈ (Sample.filtered "area").resources, decl.resolve = .ok visit.level.resource ∧
          (Sample.filtered "area").filterTarget decl "area.cabins" "area" = .existence) ∧
        (visit.level.subject? (Sample.filteredCatalog "area") "area").map Level.Subject.target =
          some (.field .string) := by
  have hfacts : (Sample.filtered "area").resolve.isOk = true ∧
      ((Sample.filteredCatalog "area").plan "area" .list Sample.filteredRequest).isOk = true ∧
      (Sample.filteredPlan "area").errors = [] := by decide +kernel
  have hreads : ((Sample.filteredCatalog "area").visit? "area" .list Sample.filteredRequest
      ["cabins"]).any (fun visit => decide
        (visit.level.capability = .ok ("area.cabins", visit.capability) ∧
          visit.capability.filters.contains "area" = true ∧
          (∃ decl ∈ (Sample.filtered "area").resources, decl.resolve = .ok visit.level.resource ∧
            (Sample.filtered "area").filterTarget decl "area.cabins" "area" = .existence) ∧
          (visit.level.subject? (Sample.filteredCatalog "area") "area").map Level.Subject.target =
            some (.field .string))) = true := by decide +kernel
  obtain ⟨hresolve, hplan, herrors⟩ := hfacts
  obtain ⟨visit, hvisit, hreads⟩ := (Option.any_eq_true _ _).1 hreads
  exact ⟨eq_ok_of_isOk _ hresolve, eq_ok_of_isOk _ hplan, herrors, visit, hvisit,
    of_decide_eq_true hreads⟩

end RestQuery
