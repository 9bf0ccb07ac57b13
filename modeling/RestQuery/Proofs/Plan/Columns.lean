import RestQuery.Proofs.Catalog.Fields
import RestQuery.Proofs.Order
import RestQuery.Proofs.Plan.Authority
import RestQuery.Proofs.Projection

/-!
# Fields of plans

A level orders by fields that its resource or the link table of its relation declares, and
tests such fields and fields of related resources.  The fields that it shows are known to its
capability entry, unless the link table has them.

Main statements: `Level.knows_of_mem_projection`, `Level.declared_of_mem_order` and
`Level.Reading.apply_tested`.
-/

namespace RestQuery

namespace Level

variable {document : Document} {catalog : Catalog} {level : Level} {capability : Capability}
  {entry : String} {params : Params}

/-- A level shows full fields, fields that the defaults add, and fields of the link table of the
relation that leads to it. -/
theorem mem_projection {routed : Routed} {name : String}
    (hmem : name ∈ (level.projection capability routed).1.fields) :
    name ∈ capability.fullFields ∨ capability.AddsByDefault name ∨
      (level.linkFields.get? name).isSome := by
  have hdefault : name ∈ (Projection.byDefault capability).fields →
      name ∈ capability.fullFields ∨ capability.AddsByDefault name ∨
        (level.linkFields.get? name).isSome :=
    fun hmem => (Projection.mem_byDefault hmem).imp_right .inl
  rw [projection] at hmem
  split at hmem
  · exact hdefault hmem
  split at hmem
  · exact hdefault hmem
  rcases Projection.mem_fields_read hmem with hfull | hnamed | hfield
  · exact .inl hfull
  · exact hdefault hnamed
  · rw [NameSpace.isField, Bool.or_eq_true] at hfield
    rcases hfield with hfull | hlink
    · exact .inl (by simpa [names] using hfull)
    · exact .inr (.inr (Table.contains_iff_mem_keys.2 (by simpa [names] using hlink)))

/-- A name is that of a field of the level's resource, or of the link table of the relation
that leads to it. -/
theorem knows_of_mem_projection (hdeclared : capability.Declared document level.resource entry)
    {routed : Routed} {name : String}
    (hmem : name ∈ (level.projection capability routed).1.fields) :
    document.Knows level.resource entry name ∨ (level.linkFields.get? name).isSome := by
  rcases mem_projection hmem with hfull | hadds | hlink
  · exact .inl (hdeclared.full name hfull)
  · exact .inl (hadds.tokenName_eq ▸ hdeclared.default name hadds.listed hadds.notWord)
  · exact .inr hlink

/-- A level shows no field twice. -/
theorem nodup_projection (level : Level) (capability : Capability) (routed : Routed) :
    (level.projection capability routed).1.fields.Nodup := by
  rw [projection]
  split
  · exact Projection.nodup_byDefault capability
  split
  · exact Projection.nodup_byDefault capability
  · exact Projection.nodup_read _ _ _

/-- The relations that a level projects are relations of its resource. -/
theorem contains_of_mem_projection (hdeclared : capability.Declared document level.resource entry)
    {routed : Routed} {name : String}
    (hmem : name ∈ (level.projection capability routed).1.relations) :
    level.resource.relations.contains name = true := by
  have hdefault : name ∈ capability.defaultRelations →
      level.resource.relations.contains name = true := hdeclared.relations name
  rw [projection] at hmem
  split at hmem
  · exact hdefault (Projection.mem_relations_byDefault hmem)
  split at hmem
  · exact hdefault (Projection.mem_relations_byDefault hmem)
  rcases Projection.mem_relations_read hmem with hnamed | hrelation
  · exact hdefault hnamed
  · exact Table.contains_iff_mem_keys.2 (List.contains_iff_mem.1 hrelation)

/-! ## Orderings -/

/-- A field belongs to the resource of a level or to the link table of the relation that leads
to it. -/
def Orders (level : Level) (field : FieldRef) : Prop :=
  (field.scope = .resource ∧ (level.resource.fields.get? field.name).isSome) ∨
    (field.scope = .link ∧ (level.linkFields.get? field.name).isSome)

/-- The value of a control is the default one, or is read from the parameter. -/
theorem controlValue_cases (given : Option Parameter) (default : α)
    (read : Parameter → Except RequestError α) :
    (controlValue given default read).1 = default ∨
      ∃ parameter, given = some parameter ∧
        read parameter = .ok (controlValue given default read).1 := by
  cases given with
  | none => exact .inl rfl
  | some parameter =>
      cases hread : read parameter with
      | error error => simp [controlValue, hread]
      | ok value => simp [controlValue, hread]

theorem orders_of_mem_order (hdeclared : capability.Declared document level.resource entry)
    (hlinks : ∀ relation, level.via = some relation → relation.OrdersOwn) {routed : Routed}
    {item : OrderEntry} (hmem : item ∈ (level.order capability routed).1) :
    level.Orders item.field := by
  have hdefault : item ∈ Order.byDefault capability.defaultOrder → level.Orders item.field := by
    intro hmem
    obtain ⟨key, hkey, rfl⟩ := List.mem_map.1 hmem
    exact .inl ⟨rfl, hdeclared.defaultOrder key hkey⟩
  have hlink : ∀ name ∈ (level.link?.map (·.orderFields)).getD [],
      (level.linkFields.get? name).isSome := by
    intro name hname
    cases hlink : level.link? with
    | none => simp [hlink] at hname
    | some link =>
        obtain ⟨relation, hvia, hrelation⟩ := Option.bind_eq_some_iff.1 hlink
        rw [hlink] at hname
        rw [linkFields, hlink]
        exact hlinks relation hvia link hrelation name hname
  rw [Level.order] at hmem
  split at hmem
  next hordered =>
    rcases controlValue_cases (routed.control? .order) (Order.byDefault capability.defaultOrder)
        (readOrder ⟨capability.orderFields, (level.link?.map (·.orderFields)).getD []⟩)
      with hdefaulted | ⟨parameter, -, hread⟩
    · rw [hdefaulted] at hmem
      exact hdefault hmem
    · obtain ⟨value, -, hvalue⟩ := bind_eq_ok_iff.1 hread
      rcases Order.mem_fields_of_read (mapError_eq_ok_iff.1 hvalue) hmem with
        ⟨hscope, hname⟩ | ⟨hscope, hname⟩
      · exact .inl ⟨hscope, hdeclared.order _ hname⟩
      · exact .inr ⟨hscope, hlink _ hname⟩
  next => exact hdefault hmem

/-! ## Filters -/

/-- What a clause of a level is about, apart from clauses about relations of which there must
be no row. -/
inductive Tests (catalog : Catalog) (level : Level) (joins : Table JoinKind) : Clause → Prop
  | search {operands : List Operand} : Tests catalog level joins
      (.onField .fullTextMatch ⟨.resource, level.resource.searchColumn⟩ operands)
  | field {field : FieldRef} {type : FieldType} {operator : Operator} {clause : Clause}
      (htype : catalog.fieldType? level.referrer level.resource field = some type)
      (happlies : clause.Applies type field operator) : Tests catalog level joins clause
  | excluded {name : String} {clause : Clause} (hscope : clause.scope? = some (.relation name))
      (hjoin : joins.get? name = some .leftExclusive) : Tests catalog level joins clause

variable {joins more : Table JoinKind} {clause : Clause}

/-- What a clause tests depends on the joins only by where there must be no related row. -/
theorem Tests.of_joins (htests : level.Tests catalog joins clause)
    (hkept : ∀ name, joins.get? name = some .leftExclusive →
      more.get? name = some .leftExclusive) : level.Tests catalog more clause := by
  cases htests with
  | search => exact .search
  | field htype happlies => exact .field htype happlies
  | excluded hscope hjoin => exact .excluded hscope (hkept _ hjoin)

/-- The clauses so far test what a level may test. -/
def Applied.Tested (catalog : Catalog) (level : Level) (applied : Applied) : Prop :=
  ∀ clause ∈ applied.clauses, level.Tests catalog applied.joins clause

namespace Applied

variable {applied : Applied}

theorem Tested.addField (htested : applied.Tested catalog level) {field : FieldRef}
    {clauses : List Clause}
    (hnew : ∀ clause ∈ clauses, ∀ joins, level.Tests catalog joins clause) :
    (applied.addField field clauses).Tested catalog level := by
  intro clause hmem
  rcases List.mem_append.1 hmem with hold | hadded
  · refine (htested clause hold).of_joins fun name hjoin => ?_
    rw [Applied.addField]
    split
    · exact Table.get?_insertNew_of_get? hjoin
    · exact hjoin
  · exact hnew clause hadded _

theorem Tested.addExistence (htested : applied.Tested catalog level) {relation : Relation}
    {rule : FilterRule} {join : JoinKind} {clauses : List Clause} {value : String}
    (hcompile : Filter.compileExistence relation rule value = .ok (join, clauses)) :
    (applied.addExistence relation join clauses).Tested catalog level := by
  rcases Filter.compileExistence_eq_ok hcompile with ⟨rfl, rfl, -⟩ | ⟨rfl, -, rfl⟩
  · intro clause hmem
    rw [Applied.addExistence, List.append_nil] at hmem
    exact (htested clause hmem).of_joins fun name hjoin => Table.get?_insertNew_of_get? hjoin
  · intro clause hmem
    rcases List.mem_append.1 hmem with hold | hadded
    · refine (htested clause hold).of_joins fun name hjoin => ?_
      rw [Applied.addExistence, Table.get?_insert]
      split
      · rfl
      · exact hjoin
    · rw [List.mem_singleton.1 hadded]
      refine .excluded rfl ?_
      rw [Applied.addExistence, Table.get?_insert, if_pos rfl]

theorem Tested.add (htested : applied.Tested catalog level) (hheld : level.Held catalog)
    {filter : Filter} (hsubject : level.subject? catalog filter.parameter.key
      = some filter.subject) : (applied.add filter).Tested catalog level := by
  obtain ⟨parameter, subject, rule⟩ := filter
  rw [Applied.add]
  cases subject with
  | field field type =>
      dsimp only
      split
      next clauses hcompile =>
        apply htested.addField
        intro clause hmem joins
        obtain ⟨operator, -, happlies⟩ := (Filter.compile_allowed hcompile).2 clause hmem
        exact .field (fieldType?_of_subject? hheld hsubject) happlies
      next => exact htested
  | existence relation =>
      dsimp only
      split
      next join clauses hcompiled =>
        obtain ⟨value, -, hcompile⟩ := bind_eq_ok_iff.1 hcompiled
        exact htested.addExistence (mapError_eq_ok_iff.1 hcompile)
      next => exact htested

theorem Tested.addSearch (htested : applied.Tested catalog level) (parameter : Parameter) :
    (applied.addSearch level.resource.searchColumn parameter).Tested catalog level := by
  rw [Applied.addSearch]
  split
  next words hwords =>
    intro clause hmem
    rcases List.mem_append.1 hmem with hold | hnew
    · exact htested clause hold
    · obtain ⟨bare, rfl⟩ := Filter.eq_onField_of_mem_compileSearch hnew
      exact .search
  next => exact htested

end Applied

/-- The filters and the search of a level test fields that the level has. -/
theorem Reading.apply_tested (hheld : level.Held catalog) :
    ((level.readWith catalog entry capability params).apply level).Tested catalog level := by
  have hempty : Applied.Tested catalog level {} := fun clause hmem => by cases hmem
  have happlied := List.foldlRecOn (motive := fun applied => applied.Tested catalog level)
    (level.readWith catalog entry capability params).filters Applied.add hempty
    fun applied htested filter hmem => htested.add hheld (granted_of_readWith hmem).1
  rw [Reading.apply]
  split
  next parameter hsearch => exact happlied.addSearch parameter
  next => exact happlied

/-! ## Nodes of plans -/

/-- What a node of a plan refers to. -/
structure Refers (document : Document) (catalog : Catalog) (level : Level) (plan : Plan) :
    Prop where
  resource : plan.resource = level.resource.name
  fields : ∀ name ∈ plan.fields,
    document.Knows level.resource plan.referrer name ∨ (level.linkFields.get? name).isSome
  order : ∀ item ∈ plan.order, level.Orders item.field
  filters : ∀ clause ∈ plan.filters, level.Tests catalog plan.joins clause

theorem declared_forSingleItem (hdeclared : capability.Declared document level.resource entry) :
    capability.forSingleItem.Declared document level.resource entry :=
  ⟨hdeclared.full, hdeclared.default, hdeclared.relations, hdeclared.order,
    fun key hmem => by cases hmem⟩

/-- The capability for a level is that of an entry, perhaps for a single item. -/
theorem exists_declared_of_capability
    (hcapability : level.capability = .ok (entry, capability)) :
    ∃ declared, level.resource.capabilities.get? entry = some declared ∧
      capability = if level.isSingle then declared.forSingleItem else declared := by
  obtain ⟨declared, hdeclared, rfl⟩ := capability_eq_ok_iff.1 hcapability
  obtain ⟨passed, rest, -, hentry, -⟩ := Resource.capability_eq_ok_iff.1 hdeclared
  exact ⟨declared, hentry, rfl⟩

/-- The capability for a level is in order in all that it names. -/
theorem Held.declared_of_capability (hheld : level.Held catalog)
    (hresolve : document.resolve = .ok catalog)
    (hcapability : level.capability = .ok (entry, capability)) :
    capability.Declared document level.resource entry := by
  obtain ⟨declared, hentry, rfl⟩ := exists_declared_of_capability hcapability
  have hnames := Document.declared_of_get? hresolve hheld.resource hentry
  split
  · exact declared_forSingleItem hnames
  · exact hnames

/-- The limits of a level that is paged are in order, but for a default limit of zero. -/
theorem Held.limits_of_capability (hheld : level.Held catalog)
    (hresolve : document.resolve = .ok catalog)
    (hcapability : level.capability = .ok (entry, capability))
    (hpaged : capability.paged = true) :
    capability.maxLimit ≠ 0 ∧ capability.defaultLimit ≤ capability.maxLimit := by
  obtain ⟨declared, hentry, rfl⟩ := exists_declared_of_capability hcapability
  split at hpaged
  · cases hpaged
  next hlist =>
    rw [if_neg hlist]
    exact Document.limits_of_get? hresolve hheld.resource hentry hpaged

theorem Held.ordersOwn (hheld : level.Held catalog) (hresolve : document.resolve = .ok catalog)
    {relation : Relation} (hvia : level.via = some relation) : relation.OrdersOwn := by
  obtain ⟨_, _, resource, hresource, hrelation⟩ := hheld.exists_of_via hvia
  exact Document.ordersOwn_of_get? hresolve hresource hrelation

/-- What a plan shows, tests and orders by is known where its level is. -/
theorem Gives.refers {plan : Plan} (hgives : level.Gives catalog plan)
    (hheld : level.Held catalog) (hresolve : document.resolve = .ok catalog) :
    level.Refers document catalog plan := by
  obtain ⟨params, reading, _, _, hread, heq⟩ := hgives.exists_reading
  obtain ⟨entry, capability, hcapability, rfl⟩ := read_eq_ok_iff.1 hread
  have hrestricted := hheld.declared_of_capability hresolve hcapability
  rw [heq]
  refine ⟨rfl, fun name hmem => ?_, fun item hmem => ?_, Reading.apply_tested hheld⟩
  · exact knows_of_mem_projection hrestricted hmem
  · exact orders_of_mem_order hrestricted (fun relation => hheld.ordersOwn hresolve) hmem

/-- A level that no relation leads to is that of the request's resource. -/
def Rooted (level : Level) : Prop :=
  level.via = none → level.referrer = .list ∨ level.referrer = .single

/-- A capability entry with a point in its name is one for the relation that leads to the
level. -/
theorem mem_relationEntries {parent name entry : String} {parentSingle : Bool}
    (hentry : entry ∈ (Referrer.nested parent name parentSingle).names)
    (hpoint : '.' ∈ entry.toList) : entry ∈ Document.relationEntries parent name := by
  have hdefault : entry ≠ "default" := by
    rintro rfl
    simp at hpoint
  cases parentSingle with
  | true => simpa [Referrer.names, Document.relationEntries, hdefault, or_comm] using hentry
  | false =>
      have hsame : entry = parent ++ "." ++ name := by
        simpa [Referrer.names, hdefault] using hentry
      exact hsame ▸ List.mem_cons_self

/-- If no two relations share a capability entry, the link fields of an entry for a level are
those of the link table of the relation that leads there. -/
theorem Held.get?_linkFields_of_distinct (hheld : level.Held catalog) (hrooted : level.Rooted)
    (hresolve : document.resolve = .ok catalog) (hdistinct : document.DistinctReferrers)
    (hentry : entry ∈ level.referrer.names) {target name : String} {type : FieldType}
    (hfield : (document.linkFieldsFor ⟨target, entry⟩).get? name = some type) :
    level.linkFields.get? name = some type := by
  by_cases hpoint : '.' ∈ entry.toList
  · cases hreferrer : level.referrer with
    | list | single =>
        rw [hreferrer] at hentry
        rcases List.mem_cons.1 hentry with hfirst | hentry
        · simp [hfirst] at hpoint
        · simp [List.mem_singleton.1 hentry] at hpoint
    | nested parent relationName parentSingle =>
        rw [hreferrer] at hentry
        obtain ⟨relation, hvia⟩ : ∃ relation, level.via = some relation := by
          apply Option.ne_none_iff_exists'.1
          intro hnone
          have hroot := hrooted hnone
          simp [hreferrer] at hroot
        have hfound := hheld.via
        rw [hvia, hreferrer] at hfound
        obtain ⟨resource, hresource, hrelation⟩ := Option.bind_eq_some_iff.1 hfound.symm
        have htype := Document.get?_link_of_distinct hresolve hdistinct hresource hrelation
          (mem_relationEntries hentry hpoint) hfield
        obtain ⟨link, hlink, htype⟩ := Option.bind_eq_some_iff.1 htype
        rw [linkFields, link?, hvia, Option.bind_some, hlink]
        exact htype
  · rw [Document.linkFieldsFor_eq_none hpoint] at hfield
    cases hfield

/-- If no two relations share a capability entry, the fields that a level shows are fields of
its resource or of the link table of the relation that leads to it. -/
theorem Gives.hasField {plan : Plan} (hgives : level.Gives catalog plan)
    (hheld : level.Held catalog) (hrooted : level.Rooted)
    (hresolve : document.resolve = .ok catalog) (hdistinct : document.DistinctReferrers)
    {name : String} (hmem : name ∈ plan.fields) :
    (level.resource.fields.get? name).isSome ∨ (level.linkFields.get? name).isSome := by
  have hrefers := hgives.refers hheld hresolve
  obtain ⟨declared, hauthorized⟩ := hgives.exists_authorized hheld
    (Document.sound_of_resolve hresolve)
  obtain ⟨passed, rest, hnames, -⟩ := hauthorized.isFirst
  have hentry : plan.referrer ∈ level.referrer.names :=
    hnames ▸ List.mem_append_right _ List.mem_cons_self
  rcases hrefers.fields name hmem with (hfield | hlinkField) | hlink
  · exact .inl hfield
  · obtain ⟨type, htype⟩ := Option.isSome_iff_exists.1 hlinkField
    rw [hheld.get?_linkFields_of_distinct hrooted hresolve hdistinct hentry htype]
    exact .inr rfl
  · exact .inr hlink

end Level

end RestQuery
