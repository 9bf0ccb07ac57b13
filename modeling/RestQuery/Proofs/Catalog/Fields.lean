import RestQuery.Proofs.Catalog.Integrity
import Mathlib.Data.List.Nodup

/-!
# Fields of capabilities

The fields that a capability entry shows are fields of the resource or of a link table that
the entry is for, and those that it orders by are fields of the resource.  An entry is for the
relations that have its name for a referrer.  If only one has it, the link fields of the entry
are those of this relation.

Main statements: `Document.declared_of_get?` and `Document.get?_link_of_distinct`.
-/

namespace RestQuery

/-- A name is that of a field of a resource, or of a link field that a capability entry of the
resource can use. -/
def Document.Knows (document : Document) (resource : Resource) (entry name : String) : Prop :=
  (resource.fields.get? name).isSome ∨
    ((document.linkFieldsFor ⟨resource.name, entry⟩).get? name).isSome

/-- The fields and relations that a capability entry of a resource names are known. -/
structure Capability.Declared (capability : Capability) (document : Document)
    (resource : Resource) (entry : String) : Prop where
  full : ∀ name ∈ capability.fullFields, document.Knows resource entry name
  default : ∀ token ∈ capability.defaultFields,
    token ≠ fullWord → document.Knows resource entry (tokenName token)
  relations : ∀ name ∈ capability.defaultRelations, (resource.relations.get? name).isSome
  order : ∀ name ∈ capability.orderFields, (resource.fields.get? name).isSome
  defaultOrder : ∀ key ∈ capability.defaultOrder, (resource.fields.get? key.1).isSome

/-- The link table of a relation orders by fields of its own. -/
def Relation.OrdersOwn (relation : Relation) : Prop :=
  ∀ link, relation.link = some link → ∀ name ∈ link.orderFields, (link.fields.get? name).isSome

theorem find?_map_eq_none {p : α → Bool} {items : List α} {f : α → β}
    (hnone : (items.find? p).map f = none) : ∀ item ∈ items, p item = false := by
  intro item hmem
  simpa using List.find?_eq_none.1 (Option.map_eq_none_iff.1 hnone) item hmem

theorem Entry.fst_of_readDefaultOrder {entry : Entry} {token : String}
    {key : String × Direction} (hread : entry.readDefaultOrder token = .ok key) :
    (Text.words token).headD "" = key.1 := by
  rw [readDefaultOrder] at hread
  split at hread
  next field word hwords =>
    split at hread
    · rw [hwords, ← Except.ok.inj hread]
      rfl
    · cases hread
  next => cases hread

/-- A capability entry means what it lists, with each entry of its default ordering read. -/
theorem CapabilityDecl.resolve_eq_ok_iff {decl : CapabilityDecl} {entry : Entry}
    {capability : Capability} :
    decl.resolve entry = .ok capability ↔
      ∃ defaultOrder, List.Forall₂ (fun token key => entry.readDefaultOrder token = .ok key)
          (decl.order.getD ⟨false, [], []⟩).default defaultOrder ∧
        capability =
          { paged := (decl.page.getD ⟨false, 0, 0⟩).enabled
            defaultLimit := (decl.page.getD ⟨false, 0, 0⟩).defaultLimit
            maxLimit := (decl.page.getD ⟨false, 0, 0⟩).maxLimit
            ordered := (decl.order.getD ⟨false, [], []⟩).enabled
            orderFields := (decl.order.getD ⟨false, [], []⟩).fields
            defaultOrder
            searchable := decl.search
            filters := decl.filters.map FilterDecl.rule
            fullFields := decl.fullFields
            defaultFields :=
              if decl.defaultFields.isEmpty && decl.defaultRelations.isEmpty then [fullWord]
              else decl.defaultFields
            defaultRelations := decl.defaultRelations } := by
  simp only [CapabilityDecl.resolve, bind_eq_ok_iff, mapM_eq_ok_iff, pure_eq_ok_iff]
  simp only [eq_comm (a := capability)]

namespace Document

variable {document : Document} {catalog : Catalog} {decl : ResourceDecl} {resource : Resource}

/-- The faults that a capability entry could have had. -/
theorem capabilityFault?_eq_none {referrer : String} {declared : CapabilityDecl}
    (hfault : document.capabilityFault? decl referrer declared = none) :
    (∀ name ∈ declared.fullFields, (document.fieldType? decl referrer name).isSome) ∧
      (∀ token ∈ declared.defaultFields, token ≠ fullWord →
        (document.fieldType? decl referrer (tokenName token)).isSome) ∧
      (∀ name ∈ declared.defaultRelations, (decl.relations.get? name).isSome) ∧
      (∀ page, declared.page = some page → pageFault? ⟨decl.name, referrer⟩ page = none) ∧
      ∀ order, declared.order = some order →
        orderFault? decl ⟨decl.name, referrer⟩ order = none := by
  rw [capabilityFault?] at hfault
  simp only [Option.or_eq_none_iff] at hfault
  obtain ⟨hfull, hdefault, hrelations, -, hpage, horder⟩ := hfault
  refine ⟨fun name hmem => ?_, fun token hmem hword => ?_, fun name hmem => ?_,
    fun page hsome => ?_, fun order hsome => ?_⟩
  · simpa using find?_map_eq_none hfull name hmem
  · simpa [hword] using find?_map_eq_none hdefault token hmem
  · simpa [Table.contains] using find?_map_eq_none hrelations name hmem
  · rwa [hsome] at hpage
  · rwa [hsome] at horder

/-- A default limit of zero is no fault. -/
theorem pageFault?_eq_none_iff {entry : Entry} {page : PageDecl} :
    pageFault? entry page = none ↔
      page.maxLimit ≠ 0 ∧ page.defaultLimit ≤ page.maxLimit := by
  rw [pageFault?, ite_eq_right_iff, ← UInt32.not_lt, ← not_or]
  constructor
  · intro hfault hlimits
    cases hfault hlimits
  · exact fun hlimits hfault => absurd hfault hlimits

/-- Orderings that are in order name fields of the resource itself. -/
theorem orderFault?_eq_none {entry : Entry} {order : OrderDecl}
    (hfault : orderFault? decl entry order = none) :
    (∀ name ∈ order.fields, (decl.fields.get? name).isSome) ∧
      ∀ token ∈ order.default, (decl.fields.get? ((Text.words token).headD "")).isSome := by
  obtain ⟨hfields, hdefault⟩ := Option.or_eq_none_iff.1 hfault
  refine ⟨fun name hmem => ?_, fun token hmem => ?_⟩
  · simpa [Table.contains] using find?_map_eq_none hfields name hmem
  · simpa [Table.contains] using find?_map_eq_none hdefault token hmem

/-- A field with a type for the check of a document is one that the resource knows. -/
theorem knows_of_fieldType? (hname : resource.name = decl.name)
    (hfields : resource.fields = decl.fields) {referrer name : String}
    (htype : (document.fieldType? decl referrer name).isSome) :
    document.Knows resource referrer name := by
  rw [fieldType?, Option.isSome_or, Bool.or_eq_true] at htype
  rw [Knows, hname, hfields]
  exact htype

/-- A capability entry of a resource is what one of its declaration means, which has no fault. -/
theorem exists_declared_of_resolve (hresolve : document.resolve = .ok catalog)
    (hdecl : decl ∈ document.resources) (hresource : decl.resolve = .ok resource) {entry : String}
    {capability : Capability} (hentry : resource.capabilities.get? entry = some capability) :
    ∃ declared : CapabilityDecl, document.capabilityFault? decl entry declared = none ∧
      declared.resolve ⟨decl.name, entry⟩ = .ok capability := by
  obtain ⟨-, -, hresources⟩ := fault?_eq_none_iff.1 (resolve_eq_ok_iff.1 hresolve).1
  obtain ⟨capabilities, hcapabilities, rfl⟩ := ResourceDecl.resolve_eq_ok_iff.1 hresource
  obtain ⟨declared, hdeclared, hreferrer, hmeans⟩ :=
    exists_of_mem_right hcapabilities (Table.mem_of_get?_ofList hentry)
  have hfault : document.capabilityFault? decl declared.1 declared.2 = none := by
    have hnone := hresources decl hdecl
    rw [resourceFault?] at hnone
    split at hnone
    · cases hnone
    split at hnone
    · cases hnone
    exact List.findSome?_eq_none_iff.1 hnone declared hdeclared
  obtain ⟨referrer, declared⟩ := declared
  obtain rfl : referrer = entry := hreferrer
  exact ⟨declared, hfault, hmeans⟩

/-- A capability entry of a catalog is what one of the document means, which has no fault. -/
theorem exists_capabilityDecl_of_get? (hresolve : document.resolve = .ok catalog) {name : String}
    (hget : catalog.resources.get? name = some resource) {entry : String}
    {capability : Capability} (hentry : resource.capabilities.get? entry = some capability) :
    ∃ (decl : ResourceDecl) (declared : CapabilityDecl), resource.name = decl.name ∧
      resource.fields = decl.fields ∧
      resource.relations = decl.relations.mapEntries RelationDecl.resolve ∧
      document.capabilityFault? decl entry declared = none ∧
      declared.resolve ⟨decl.name, entry⟩ = .ok capability := by
  obtain ⟨decl, hdecl, -, hresource⟩ := exists_decl_of_get? hresolve hget
  obtain ⟨declared, hfault, hmeans⟩ :=
    exists_declared_of_resolve hresolve hdecl hresource hentry
  obtain ⟨capabilities, -, rfl⟩ := ResourceDecl.resolve_eq_ok_iff.1 hresource
  exact ⟨decl, declared, rfl, rfl, rfl, hfault, hmeans⟩

/-- A capability that is paged has a largest limit, and the default one is not beyond it. -/
theorem limits_of_get? (hresolve : document.resolve = .ok catalog) {name : String}
    (hget : catalog.resources.get? name = some resource) {entry : String}
    {capability : Capability} (hentry : resource.capabilities.get? entry = some capability)
    (hpaged : capability.paged = true) :
    capability.maxLimit ≠ 0 ∧ capability.defaultLimit ≤ capability.maxLimit := by
  obtain ⟨decl, declared, -, -, -, hfault, hmeans⟩ :=
    exists_capabilityDecl_of_get? hresolve hget hentry
  obtain ⟨-, -, -, hpage, -⟩ := capabilityFault?_eq_none hfault
  obtain ⟨_, -, rfl⟩ := CapabilityDecl.resolve_eq_ok_iff.1 hmeans
  cases hsome : declared.page with
  | none => simp [hsome] at hpaged
  | some page => exact pageFault?_eq_none_iff.1 (hpage page hsome)

/-- What the capability entries of an accepted document name is known to it. -/
theorem declared_of_get? (hresolve : document.resolve = .ok catalog) {name : String}
    (hget : catalog.resources.get? name = some resource) {entry : String}
    {capability : Capability} (hentry : resource.capabilities.get? entry = some capability) :
    capability.Declared document resource entry := by
  obtain ⟨decl, declared, hname, hfields, hdeclared, hfault, hmeans⟩ :=
    exists_capabilityDecl_of_get? hresolve hget hentry
  obtain ⟨hfull, hdefault, hrelations, -, horder⟩ := capabilityFault?_eq_none hfault
  obtain ⟨defaultOrder, htokens, rfl⟩ := CapabilityDecl.resolve_eq_ok_iff.1 hmeans
  have horders : ∀ order, declared.order = some order →
      (∀ name ∈ order.fields, (decl.fields.get? name).isSome) ∧
        ∀ token ∈ order.default, (decl.fields.get? ((Text.words token).headD "")).isSome :=
    fun order hsome => orderFault?_eq_none (horder order hsome)
  rw [← hfields] at horders
  refine ⟨fun name hmem => ?_, fun token hmem hword => ?_, fun name hmem => ?_,
    fun name hmem => ?_, fun key hmem => ?_⟩
  · exact knows_of_fieldType? hname hfields (hfull name hmem)
  · by_cases hempty : (declared.defaultFields.isEmpty && declared.defaultRelations.isEmpty) = true
    · rw [if_pos hempty] at hmem
      exact absurd (List.mem_singleton.1 hmem) hword
    · rw [if_neg hempty] at hmem
      exact knows_of_fieldType? hname hfields (hdefault token hmem hword)
  · rw [hdeclared, Table.get?_mapEntries, Option.isSome_map]
    exact hrelations name hmem
  · cases hsome : declared.order with
    | none => simp [hsome] at hmem
    | some order =>
        rw [hsome] at hmem
        exact (horders order hsome).1 name hmem
  · obtain ⟨token, htoken, hread⟩ := exists_of_mem_right htokens hmem
    cases hsome : declared.order with
    | none => simp [hsome] at htoken
    | some order =>
        rw [hsome] at htoken
        rw [← Entry.fst_of_readDefaultOrder hread]
        exact (horders order hsome).2 token htoken

/-- The link tables of an accepted document order by fields of their own. -/
theorem ordersOwn_of_get? (hresolve : document.resolve = .ok catalog) {name : String}
    (hget : catalog.resources.get? name = some resource) {relationName : String}
    {relation : Relation} (hrelation : resource.relations.get? relationName = some relation) :
    relation.OrdersOwn := by
  obtain ⟨-, hrelations, -⟩ := fault?_eq_none_iff.1 (resolve_eq_ok_iff.1 hresolve).1
  obtain ⟨decl, hdecl, -, hresource⟩ := exists_decl_of_get? hresolve hget
  rw [get?_relations_of_resolve hresource, Option.map_eq_some_iff] at hrelation
  obtain ⟨declared, hdeclared, rfl⟩ := hrelation
  have hfault := hrelations decl hdecl _ (Table.get?_eq_some_iff.1 hdeclared)
  intro link hlink field hmem
  have hlinked : declared.link = some link := hlink
  rw [relationFault?] at hfault
  split at hfault
  · cases hfault
  split at hfault
  · cases hfault
  simp only [hlinked] at hfault
  simpa [Table.contains] using find?_map_eq_none hfault field hmem

/-! ## Link fields of capability entries -/

/-- The names of the capability entries for a relation of a resource. -/
def relationEntries (resource relation : String) : List String :=
  [resource ++ "." ++ relation, resource ++ ".single." ++ relation]

/-- No two relations have a name for capability entries in common. -/
def DistinctReferrers (document : Document) : Prop :=
  ∀ first ∈ document.resources, ∀ relation ∈ first.relations.entries,
    ∀ second ∈ document.resources, ∀ other ∈ second.relations.entries,
      ∀ entry ∈ relationEntries first.name relation.1,
        entry ∈ relationEntries second.name other.1 →
          first.name = second.name ∧ relation.1 = other.1

/-- Link fields of an entry are those of a relation that has the name of the entry. -/
theorem exists_relation_of_linkFieldsFor {target entry name : String} {type : FieldType}
    (hfield : (document.linkFieldsFor ⟨target, entry⟩).get? name = some type) :
    ∃ decl ∈ document.resources, ∃ relation ∈ decl.relations.entries, ∃ link,
      relation.2.link = some link ∧ relation.2.target = target ∧
        entry ∈ relationEntries decl.name relation.1 ∧ link.fields.get? name = some type := by
  rw [linkFieldsFor] at hfield
  cases hlookup : document.linkFields.reverse.lookup (target, entry) with
  | none => simp [hlookup] at hfield
  | some fields =>
      rw [hlookup, Option.getD_some] at hfield
      obtain ⟨before, after, heq, -⟩ := List.lookup_eq_some_iff.1 hlookup
      have hmem : ((target, entry), fields) ∈ document.linkFields := by
        rw [← List.mem_reverse, heq]
        exact List.mem_append_right _ List.mem_cons_self
      obtain ⟨decl, hdecl, hmem⟩ := List.mem_flatMap.1 hmem
      obtain ⟨⟨relationName, relation⟩, hrelation, hmem⟩ := List.mem_flatMap.1 hmem
      refine ⟨decl, hdecl, _, hrelation, ?_⟩
      cases hlink : relation.link with
      | none => simp [hlink] at hmem
      | some link =>
          simp only [hlink, List.mem_cons, Prod.mk.injEq, List.not_mem_nil, or_false] at hmem
          rcases hmem with ⟨⟨rfl, rfl⟩, rfl⟩ | ⟨⟨rfl, rfl⟩, rfl⟩
          · exact ⟨link, rfl, rfl, List.mem_cons_self, hfield⟩
          · exact ⟨link, rfl, rfl, List.mem_cons_of_mem _ List.mem_cons_self, hfield⟩

/-- If no two relations share an entry, the link fields of an entry for a relation are those
of its link table, with their types. -/
theorem get?_link_of_distinct (hresolve : document.resolve = .ok catalog)
    (hdistinct : document.DistinctReferrers) {parent : String}
    (hparent : catalog.resources.get? parent = some resource) {relationName : String}
    {relation : Relation} (hrelation : resource.relations.get? relationName = some relation)
    {entry : String} (hentry : entry ∈ relationEntries parent relationName) {target name : String}
    {type : FieldType} (hfield : (document.linkFieldsFor ⟨target, entry⟩).get? name = some type) :
    relation.link.bind (·.fields.get? name) = some type := by
  obtain ⟨other, hother, ⟨otherName, otherRelation⟩, hmem, link, hlink, -, hshared, htype⟩ :=
    exists_relation_of_linkFieldsFor hfield
  obtain ⟨decl, hdecl, rfl, hresource⟩ := exists_decl_of_get? hresolve hparent
  rw [get?_relations_of_resolve hresource, Option.map_eq_some_iff] at hrelation
  obtain ⟨declared, hdeclared, rfl⟩ := hrelation
  obtain ⟨hnames, hrelations⟩ := hdistinct decl hdecl _ (Table.get?_eq_some_iff.1 hdeclared)
    other hother _ hmem entry hentry hshared
  obtain rfl : relationName = otherName := hrelations
  have hnodup := (fault?_eq_none_iff.1 (resolve_eq_ok_iff.1 hresolve).1).1
  obtain rfl : decl = other := List.inj_on_of_nodup_map hnodup hdecl hother hnames
  have hsame : decl.relations.get? relationName = some otherRelation :=
    Table.get?_eq_some_iff.2 hmem
  obtain rfl : declared = otherRelation := Option.some.inj (hdeclared.symm.trans hsame)
  have hdeclaredLink : declared.link = some link := hlink
  simp [RelationDecl.resolve, hdeclaredLink, htype]

/-- Only capability entries with a point in their names can use link fields. -/
theorem linkFieldsFor_eq_none {entry : String} (hpoint : '.' ∉ entry.toList)
    (target name : String) : (document.linkFieldsFor ⟨target, entry⟩).get? name = none := by
  cases hget : (document.linkFieldsFor ⟨target, entry⟩).get? name with
  | none => rfl
  | some type =>
      obtain ⟨decl, -, relation, -, -, -, -, hentry, -⟩ := exists_relation_of_linkFieldsFor hget
      rcases List.mem_cons.1 hentry with rfl | hentry
      · simp at hpoint
      · rw [List.mem_singleton.1 hentry] at hpoint
        simp at hpoint

theorem relationEntries_eq (resource relation : String) :
    relationEntries resource relation =
      [Text.join '.' [resource, relation], Text.join '.' [resource, "single", relation]] := by
  simp [relationEntries, Text.join, ← String.toList_inj, List.intercalate]

/-- Relations have entries of their own if no name has a point in it. -/
theorem distinctReferrers_of_points
    (hpoints : ∀ decl ∈ document.resources, '.' ∉ decl.name.toList ∧
      ∀ relation ∈ decl.relations.entries, '.' ∉ relation.1.toList) :
    document.DistinctReferrers := by
  intro first hfirst relation hrelation second hsecond other hother entry hentry hshared
  obtain ⟨hname, hrelations⟩ := hpoints first hfirst
  obtain ⟨hotherName, hothers⟩ := hpoints second hsecond
  have hparts : ∀ {resource relation : String}, '.' ∉ resource.toList → '.' ∉ relation.toList →
      entry ∈ relationEntries resource relation →
        Text.split '.' entry = [resource, relation] ∨
          Text.split '.' entry = [resource, "single", relation] := by
    intro resource relation hresource hrelation hentry
    rw [relationEntries_eq] at hentry
    rcases List.mem_cons.1 hentry with rfl | hentry
    · exact .inl (Text.split_join (by simp) (by simp [hresource, hrelation]))
    · rw [List.mem_singleton.1 hentry]
      exact .inr (Text.split_join (by simp) (by simp [hresource, hrelation]))
  have hone := hparts hname (hrelations relation hrelation) hentry
  have htwo := hparts hotherName (hothers other hother) hshared
  rcases hone with hone | hone <;> rcases htwo with htwo | htwo <;> simp_all

/-! ## Names of relations -/

/-- A resource has no field with the name of a relation of it. -/
theorem field_of_relation (hresolve : document.resolve = .ok catalog) {name : String}
    (hget : catalog.resources.get? name = some resource) {relationName : String}
    {relation : Relation} (hrelation : resource.relations.get? relationName = some relation) :
    resource.fields.get? relationName = none := by
  obtain ⟨-, hrelations, -⟩ := fault?_eq_none_iff.1 (resolve_eq_ok_iff.1 hresolve).1
  obtain ⟨decl, hdecl, -, hresource⟩ := exists_decl_of_get? hresolve hget
  rw [get?_relations_of_resolve hresource, Option.map_eq_some_iff] at hrelation
  obtain ⟨declared, hdeclared, rfl⟩ := hrelation
  have hfault := hrelations decl hdecl _ (Table.get?_eq_some_iff.1 hdeclared)
  obtain ⟨capabilities, -, rfl⟩ := ResourceDecl.resolve_eq_ok_iff.1 hresource
  rw [relationFault?] at hfault
  split at hfault
  · cases hfault
  split at hfault
  · cases hfault
  next hfield => exact Option.not_isSome_iff_eq_none.1 hfield

/-- No link table has a field with the name of a relation of the resource to which it leads. -/
def LinksApart (document : Document) : Prop :=
  ∀ decl ∈ document.resources, ∀ relation ∈ decl.relations.entries, ∀ link ∈ relation.2.link,
    ∀ target ∈ document.resources, target.name = relation.2.target →
      ∀ name ∈ link.fields.keys, target.relations.contains name = false

instance (document : Document) : Decidable document.LinksApart :=
  inferInstanceAs (Decidable (∀ decl ∈ document.resources, ∀ relation ∈ decl.relations.entries,
    ∀ link ∈ relation.2.link, ∀ target ∈ document.resources, target.name = relation.2.target →
      ∀ name ∈ link.fields.keys, target.relations.contains name = false))

theorem LinksApart.get?_eq_none (hapart : document.LinksApart)
    (hdecl : decl ∈ document.resources) {relation : String × RelationDecl}
    (hrelation : relation ∈ decl.relations.entries) {link : LinkTable}
    (hlink : relation.2.link = some link) (hresolve : document.resolve = .ok catalog)
    (hget : catalog.resources.get? relation.2.target = some resource) {field : String}
    (hfield : (link.fields.get? field).isSome) : resource.relations.get? field = none := by
  obtain ⟨target, hmem, htarget, hresource⟩ := exists_decl_of_get? hresolve hget
  have hnone := hapart decl hdecl relation hrelation link hlink target hmem htarget field
    (Table.contains_iff_mem_keys.1 hfield)
  rw [get?_relations_of_resolve hresource, Option.map_eq_none_iff]
  exact Option.not_isSome_iff_eq_none.1 (Bool.eq_false_iff.1 hnone)

/-- If link tables keep apart from relations, link fields never hide a relation. -/
theorem LinksApart.of_linkFieldsFor (hapart : document.LinksApart)
    (hresolve : document.resolve = .ok catalog) {name : String}
    (hget : catalog.resources.get? name = some resource) {entry field : String}
    (hfield : ((document.linkFieldsFor ⟨name, entry⟩).get? field).isSome) :
    resource.relations.get? field = none := by
  obtain ⟨type, htype⟩ := Option.isSome_iff_exists.1 hfield
  obtain ⟨decl, hdecl, relation, hrelation, link, hlink, rfl, -, hfound⟩ :=
    exists_relation_of_linkFieldsFor htype
  exact hapart.get?_eq_none hdecl hrelation hlink hresolve hget
    (Option.isSome_iff_exists.2 ⟨type, hfound⟩)

theorem LinksApart.of_link (hapart : document.LinksApart)
    (hresolve : document.resolve = .ok catalog) {parent : String} {outer : Resource}
    (hparent : catalog.resources.get? parent = some outer) {relationName : String}
    {relation : Relation} (hrelation : outer.relations.get? relationName = some relation)
    {link : LinkTable} (hlink : relation.link = some link)
    (hget : catalog.resources.get? relation.target = some resource) {field : String}
    (hfield : (link.fields.get? field).isSome) : resource.relations.get? field = none := by
  obtain ⟨decl, hdecl, -, houter⟩ := exists_decl_of_get? hresolve hparent
  rw [get?_relations_of_resolve houter, Option.map_eq_some_iff] at hrelation
  obtain ⟨declared, hdeclared, rfl⟩ := hrelation
  exact hapart.get?_eq_none hdecl (Table.get?_eq_some_iff.1 hdeclared) hlink hresolve hget hfield

end Document

end RestQuery
