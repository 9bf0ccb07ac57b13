import RestQuery.Proofs.Filter.Clauses
import RestQuery.Proofs.Plan.Levels
import RestQuery.Proofs.Request.Routing

/-!
# What a plan may do

Every node of a plan is made under one capability, and its clauses and joins are those
that the capability permits: a search if the resource is searched, that there are no
related rows, and tests of fields by operators that the rules of the filters allow.

Main statement: `Plan.Reaches.authorized`.
-/

namespace RestQuery

def FieldRef.key (field : FieldRef) : String :=
  match field.scope with
  | .relation relation => relation ++ "." ++ field.name
  | .resource | .link => field.name

/-- The type of a field of a resource, of the link table through which it is reached, or
of a related resource. -/
def Catalog.fieldType? (catalog : Catalog) (referrer : Referrer) (resource : Resource)
    (field : FieldRef) : Option FieldType :=
  match field.scope with
  | .resource => resource.fields.get? field.name
  | .link =>
    (catalog.relation? referrer).bind fun relation =>
      relation.link.bind (·.fields.get? field.name)
  | .relation name =>
    (resource.relations.get? name).bind fun relation =>
      (catalog.resources.get? relation.target).bind (·.fields.get? field.name)

/-- The names of the capability entries for a way of reaching a resource, the most
specific first and the one for every way last. -/
def Referrer.names : Referrer → List String
  | list => ["*list", "default"]
  | single => ["*single", "default"]
  | nested parent relation true =>
    [parent ++ ".single." ++ relation, parent ++ "." ++ relation, "default"]
  | nested parent relation false => [parent ++ "." ++ relation, "default"]

theorem Referrer.names_eq (referrer : Referrer) :
    referrer.names = referrer.candidates ++ [defaultReferrer] := by
  match referrer with
  | list => rfl
  | single => rfl
  | nested _ _ true => rfl
  | nested _ _ false => rfl

def Capability.restrict (capability : Capability) (referrer : Referrer) : Capability :=
  if referrer = .single then capability.forSingleItem else capability

/-- The clauses that a capability for a resource permits. -/
inductive Capability.Permits (capability : Capability) (catalog : Catalog)
    (referrer : Referrer) (resource : Resource) : Clause → Prop
  | search {words : String} (hsearchable : capability.searchable = true) :
      Permits capability catalog referrer resource
        (.onField .fullTextMatch ⟨.resource, resource.searchColumn⟩ [.text words])
  | absence {name : String} {relation : Relation} {rule : FilterRule}
      (hrelation : resource.relations.get? name = some relation)
      (hrule : capability.filters.get? name = some rule)
      (hallows : rule.allows .isNull = true) :
      Permits capability catalog referrer resource
        (.onField .isNull ⟨.relation name, relation.targetKey⟩ [])
  | field {field : FieldRef} {type : FieldType} {operator : Operator} {rule : FilterRule}
      {clause : Clause} (htype : catalog.fieldType? referrer resource field = some type)
      (hrule : capability.filters.get? field.key = some rule)
      (hallows : rule.allows operator = true) (happlies : clause.Applies type field operator) :
      Permits capability catalog referrer resource clause

/-- The joins that a capability for a resource permits. -/
inductive Capability.PermitsJoin (capability : Capability) (resource : Resource)
    (name : String) : JoinKind → Prop
  | absence {relation : Relation} {rule : FilterRule}
      (hrelation : resource.relations.get? name = some relation)
      (hrule : capability.filters.get? name = some rule)
      (hallows : rule.allows .isNull = true) : PermitsJoin capability resource name .leftExclusive
  | presence {relation : Relation} {rule : FilterRule}
      (hrelation : resource.relations.get? name = some relation)
      (hrule : capability.filters.get? name = some rule)
      (hallows : rule.allows .isNotNull = true) : PermitsJoin capability resource name .inner
  | field {relation : Relation} {field : String} {rule : FilterRule}
      (hrelation : resource.relations.get? name = some relation)
      (hrule : capability.filters.get? (name ++ "." ++ field) = some rule) :
      PermitsJoin capability resource name .inner

/-- A plan for a resource that is reached in some way does what the first declared
capability for that way permits. -/
structure Plan.Authorized (catalog : Catalog) (referrer : Referrer) (plan : Plan)
    (resource : Resource) (declared : Capability) : Prop where
  isResource : catalog.resources.get? plan.resource = some resource
  isDeclared : resource.capabilities.get? plan.referrer = some declared
  isFirst : ∃ passed rest, referrer.names = passed ++ plan.referrer :: rest ∧
    ∀ name ∈ passed, resource.capabilities.get? name = none
  filters : ∀ clause ∈ plan.filters,
    (declared.restrict referrer).Permits catalog referrer resource clause
  joins : ∀ {name join}, plan.joins.get? name = some join →
    (declared.restrict referrer).PermitsJoin resource name join

namespace Level

variable {catalog : Catalog} {level : Level} {capability : Capability}

/-! ## What filters are about -/

/-- The field of a filter is the one that its key spells. -/
theorem key_of_subject? {key : String} {field : FieldRef} {type : FieldType}
    (hsubject : level.subject? catalog key = some (.field field type)) : field.key = key := by
  unfold subject? at hsubject
  split at hsubject
  · split at hsubject
    · simp only [Option.some.injEq, Subject.field.injEq] at hsubject
      rw [← hsubject.1]
      rfl
    · simp only [Option.some.injEq, Subject.field.injEq] at hsubject
      rw [← hsubject.1]
      rfl
    · simp at hsubject
  next name rest hsplit =>
    simp only [bind, pure, Option.bind_eq_some_iff, Option.some.injEq,
      Subject.field.injEq] at hsubject
    obtain ⟨relation, -, target, -, found, -, rfl, rfl⟩ := hsubject
    have htext := Text.toList_of_splitOnce hsplit
    rw [FieldRef.key, ← String.toList_inj, htext]
    simp

/-- The type of a filter's field is that of the declared field. -/
theorem fieldType?_of_subject? (hheld : level.Held catalog) {key : String} {field : FieldRef}
    {type : FieldType} (hsubject : level.subject? catalog key = some (.field field type)) :
    catalog.fieldType? level.referrer level.resource field = some type := by
  unfold subject? at hsubject
  split at hsubject
  · split at hsubject
    next hfound =>
      simp only [Option.some.injEq, Subject.field.injEq] at hsubject
      obtain ⟨rfl, rfl⟩ := hsubject
      exact hfound
    next hfound =>
      simp only [Option.some.injEq, Subject.field.injEq] at hsubject
      obtain ⟨rfl, rfl⟩ := hsubject
      rw [linkFields, link?, hheld.via] at hfound
      rw [Catalog.fieldType?]
      cases hvia : catalog.relation? level.referrer with
      | none => simp [hvia] at hfound
      | some relation =>
          cases hlink : relation.link with
          | none => simp [hvia, hlink] at hfound
          | some link => simpa [hvia, hlink] using hfound
    · simp at hsubject
  next name rest hsplit =>
    simp only [bind, pure, Option.bind_eq_some_iff, Option.some.injEq,
      Subject.field.injEq] at hsubject
    obtain ⟨relation, hrelation, target, htarget, found, hfound, rfl, rfl⟩ := hsubject
    simp [Catalog.fieldType?, hrelation, htarget, hfound]

/-- A filter on existence is about a relation of the resource. -/
theorem get?_of_subject? {key : String} {relation : Relation}
    (hsubject : level.subject? catalog key = some (.existence relation)) :
    level.resource.relations.get? key = some relation := by
  unfold subject? at hsubject
  split at hsubject
  · split at hsubject
    · simp at hsubject
    · simp at hsubject
    · simpa using hsubject
  · simp [bind, pure, Option.bind_eq_some_iff] at hsubject

/-! ## Reading filters -/

/-- A filter is about what its key names, and has the rule that the capability declares
for the key. -/
def Filter.Granted (catalog : Catalog) (level : Level) (capability : Capability)
    (filter : Filter) : Prop :=
  level.subject? catalog filter.parameter.key = some filter.subject ∧
    capability.filters.get? filter.parameter.key = some filter.rule

theorem mem_separate {results : List (Except ε α)} {value : α}
    (hmem : value ∈ (separate results).1) : .ok value ∈ results := by
  induction results with
  | nil => cases hmem
  | cons result rest ih =>
      cases result with
      | error error => exact List.mem_cons_of_mem _ (ih hmem)
      | ok first =>
          rcases List.mem_cons.1 hmem with rfl | hmem
          · exact List.mem_cons_self
          · exact List.mem_cons_of_mem _ (ih hmem)

theorem granted_of_filter {parameter : Parameter} {filter : Filter}
    (hfilter : level.filter catalog capability parameter = .ok filter)
    (hkey : parameter.key ∈ capability.filters.keys) :
    filter.Granted catalog level capability := by
  unfold Level.filter at hfilter
  split at hfilter
  next subject hsubject =>
    obtain rfl := Except.ok.inj hfilter
    obtain ⟨rule, hrule⟩ :=
      Option.isSome_iff_exists.1 (Table.contains_iff_mem_keys.2 hkey)
    refine ⟨hsubject, ?_⟩
    simp only [hrule, Option.getD_some]
  next => cases hfilter

variable {entry : String} {params : Params}

/-- Every filter that is read has the rule declared for its key. -/
theorem granted_of_readWith {filter : Filter}
    (hmem : filter ∈ (level.readWith catalog entry capability params).filters) :
    filter.Granted catalog level capability := by
  obtain ⟨parameter, hparameter, hfilter⟩ := List.mem_map.1 (mem_separate hmem)
  exact granted_of_filter hfilter (Params.mem_filters_of_mem_route hparameter)

theorem searchable_of_readWith {parameter : Parameter}
    (hsearch : (level.readWith catalog entry capability params).search = some parameter) :
    capability.searchable = true := by
  have hmem : Control.search.name ∈ (level.keys capability).controls :=
    Params.mem_controls_of_control? hsearch
  by_contra hnot
  simp [keys, controls, hnot, Control.name_inj] at hmem

/-! ## Applying filters -/

/-- What filters have become is what a capability permits. -/
structure Applied.Permitted (catalog : Catalog) (level : Level) (capability : Capability)
    (applied : Applied) : Prop where
  clauses : ∀ clause ∈ applied.clauses,
    capability.Permits catalog level.referrer level.resource clause
  joins : ∀ {name join}, applied.joins.get? name = some join →
    capability.PermitsJoin level.resource name join

namespace Applied

variable {applied : Applied}

theorem Permitted.refuse (hpermitted : applied.Permitted catalog level capability)
    (errors : List RequestError) : (applied.refuse errors).Permitted catalog level capability :=
  ⟨hpermitted.clauses, hpermitted.joins⟩

theorem Permitted.addField (hpermitted : applied.Permitted catalog level capability)
    (hheld : level.Held catalog) {field : FieldRef} {type : FieldType} {rule : FilterRule}
    {clauses : List Clause} {key : String}
    (hsubject : level.subject? catalog key = some (.field field type))
    (hrule : capability.filters.get? key = some rule)
    (hallowed : Filter.Allowed type field rule clauses) :
    (applied.addField field clauses).Permitted catalog level capability := by
  have htype := fieldType?_of_subject? hheld hsubject
  rw [← key_of_subject? hsubject] at hrule
  constructor
  · intro clause hmem
    rcases List.mem_append.1 hmem with hold | hnew
    · exact hpermitted.clauses clause hold
    · obtain ⟨operator, hallows, happlies⟩ := hallowed.2 clause hnew
      exact .field htype hrule hallows happlies
  · intro name join hjoin
    rw [Applied.addField] at hjoin
    split at hjoin
    next relationName hscope =>
      rcases Table.eq_or_get?_of_get?_insertNew hjoin with ⟨rfl, rfl⟩ | hold
      · rw [FieldRef.key, hscope] at hrule
        rw [Catalog.fieldType?, hscope] at htype
        obtain ⟨relation, hrelation, -⟩ := Option.bind_eq_some_iff.1 htype
        exact .field hrelation hrule
      · exact hpermitted.joins hold
    next => exact hpermitted.joins hjoin

theorem Permitted.addExistence (hpermitted : applied.Permitted catalog level capability)
    (hheld : level.Held catalog) (hsound : catalog.Sound) {relation : Relation}
    {rule : FilterRule} {join : JoinKind} {clauses : List Clause} {key value : String}
    (hsubject : level.subject? catalog key = some (.existence relation))
    (hrule : capability.filters.get? key = some rule)
    (hcompile : Filter.compileExistence relation rule value = .ok (join, clauses)) :
    (applied.addExistence relation join clauses).Permitted catalog level capability := by
  have hrelation := get?_of_subject? hsubject
  have hname : relation.name = key := (hheld.sound hsound).relationNamed hrelation
  rcases Filter.compileExistence_eq_ok hcompile with ⟨rfl, rfl, hallows⟩ | ⟨rfl, hallows, rfl⟩
  · constructor
    · intro clause hmem
      rw [Applied.addExistence, List.append_nil] at hmem
      exact hpermitted.clauses clause hmem
    · intro name join hjoin
      rcases Table.eq_or_get?_of_get?_insertNew hjoin with ⟨rfl, rfl⟩ | hold
      · rw [hname]
        exact .presence hrelation hrule hallows
      · exact hpermitted.joins hold
  · constructor
    · intro clause hmem
      rcases List.mem_append.1 hmem with hold | hnew
      · exact hpermitted.clauses clause hold
      · rw [List.mem_singleton.1 hnew, hname]
        exact .absence hrelation hrule hallows
    · intro name join hjoin
      rw [Applied.addExistence, Table.get?_insert] at hjoin
      split at hjoin
      next heq =>
        rw [heq, hname, ← Option.some.inj hjoin]
        exact .absence hrelation hrule hallows
      next => exact hpermitted.joins hjoin

/-- Applying a filter keeps what filters have become within what is permitted. -/
theorem Permitted.add (hpermitted : applied.Permitted catalog level capability)
    (hheld : level.Held catalog) (hsound : catalog.Sound) {filter : Filter}
    (hgranted : filter.Granted catalog level capability) :
    (applied.add filter).Permitted catalog level capability := by
  obtain ⟨parameter, subject, rule⟩ := filter
  obtain ⟨hsubject, hrule⟩ := hgranted
  unfold Applied.add
  cases subject with
  | field field type =>
      dsimp only
      split
      next clauses hcompile =>
        exact hpermitted.addField hheld hsubject hrule (Filter.compile_allowed hcompile)
      next => exact hpermitted.refuse _
  | existence relation =>
      dsimp only
      split
      next join clauses hcompiled =>
        obtain ⟨value, -, hcompile⟩ := bind_eq_ok_iff.1 hcompiled
        exact hpermitted.addExistence hheld hsound hsubject hrule
          (mapError_eq_ok_iff.1 hcompile)
      next => exact hpermitted.refuse _

theorem Permitted.addSearch (hpermitted : applied.Permitted catalog level capability)
    (hsearchable : capability.searchable = true) (parameter : Parameter) :
    (applied.addSearch level.resource.searchColumn parameter).Permitted
      catalog level capability := by
  unfold Applied.addSearch
  split
  next words hwords =>
    refine ⟨fun clause hmem => ?_, hpermitted.joins⟩
    rcases List.mem_append.1 hmem with hold | hnew
    · exact hpermitted.clauses clause hold
    · obtain ⟨bare, rfl⟩ := Filter.eq_onField_of_mem_compileSearch hnew
      exact .search hsearchable
  next => exact hpermitted.refuse _

end Applied

/-- The filters and the search of a level become only what its capability permits. -/
theorem Reading.apply_permitted (hheld : level.Held catalog) (hsound : catalog.Sound)
    {entry : String} {params : Params} :
    ((level.readWith catalog entry capability params).apply level).Permitted
      catalog level capability := by
  have hfilters : ∀ filter ∈ (level.readWith catalog entry capability params).filters,
      filter.Granted catalog level capability := fun _ => granted_of_readWith
  have hempty : Applied.Permitted catalog level capability {} :=
    ⟨by simp, by simp⟩
  have happlied := List.foldlRecOn
    (motive := fun applied => applied.Permitted catalog level capability)
    (level.readWith catalog entry capability params).filters Applied.add hempty
    fun applied hpermitted filter hmem =>
      hpermitted.add hheld hsound (hfilters filter hmem)
  unfold Reading.apply
  dsimp only
  split
  next parameter hsearch =>
    exact happlied.addSearch (searchable_of_readWith hsearch) parameter
  next => exact happlied

/-! ## Plans -/

/-- The plan of a level is authorized. -/
theorem Gives.exists_authorized {plan : Plan} (hgives : level.Gives catalog plan)
    (hheld : level.Held catalog) (hsound : catalog.Sound) :
    ∃ declared, plan.Authorized catalog level.referrer level.resource declared := by
  obtain ⟨params, reading, hread, hresource, hreferrer, hfilters, hjoins⟩ := hgives.read
  obtain ⟨entry, capability, hcapability, rfl⟩ := read_eq_ok_iff.1 hread
  obtain ⟨declared, hdeclared, rfl⟩ := capability_eq_ok_iff.1 hcapability
  obtain ⟨passed, rest, hnames, hentry, hpassed⟩ := Resource.capability_eq_ok_iff.1 hdeclared
  have hrestrict : (if level.isSingle then declared.forSingleItem else declared)
      = declared.restrict level.referrer := by
    simp [isSingle, Capability.restrict]
  rw [hrestrict] at hfilters hjoins hreferrer
  have hpermitted : Applied.Permitted catalog level (declared.restrict level.referrer)
      ((level.readWith catalog entry (declared.restrict level.referrer) params).apply level) :=
    Reading.apply_permitted hheld hsound
  refine ⟨declared, ⟨?_, ?_, ⟨passed, rest, ?_, hpassed⟩, ?_, ?_⟩⟩
  · rw [hresource]
    exact hheld.resource
  · rw [hreferrer]
    exact hentry
  · rw [Referrer.names_eq, hnames, hreferrer]
    rfl
  · rw [hfilters]
    exact hpermitted.clauses
  · rw [hjoins]
    exact hpermitted.joins

end Level

namespace Plan.Reaches

variable {catalog : Catalog} {target : Target} {plan node : Plan} {referrer : Referrer}

/-- Each node of a plan is the plan of a level that is reached in the same way. -/
theorem exists_level {name : String} {params : Params} (hsound : catalog.Sound)
    (hplan : catalog.plan name target params = .ok plan)
    (hreach : plan.Reaches target referrer node) :
    ∃ level : Level, level.Held catalog ∧ level.Gives catalog node ∧
      level.referrer = referrer := by
  induction hreach with
  | root =>
      obtain ⟨level, hroot, hplan⟩ := bind_eq_ok_iff.1 hplan
      refine ⟨level, Level.held_of_root hsound hroot, Level.gives_of_planWithin hplan, ?_⟩
      obtain ⟨resource, -, rfl⟩ := Level.root_eq_ok_iff.1 hroot
      rfl
  | along _ hentry ih =>
      obtain ⟨level, hheld, hgives, rfl⟩ := ih
      obtain ⟨relation, child, hrelation, hchild, hsub⟩ := hgives.relation hentry
      refine ⟨child, hheld.of_child hsound hrelation hchild, hsub, ?_⟩
      have hname := (hheld.sound hsound).relationNamed hrelation
      obtain ⟨_, _, _, hresource, -⟩ := hgives.read
      obtain ⟨resource, -, rfl⟩ := Level.child_eq_ok_iff.1 hchild
      rw [hname, hresource]
      rfl

/-- Every node that is reached does what the first declared capability for it permits. -/
theorem authorized {document : Document} (hresolve : document.resolve = .ok catalog)
    {name : String} {params : Params} (hplan : catalog.plan name target params = .ok plan)
    (hreach : plan.Reaches target referrer node) :
    ∃ resource declared, node.Authorized catalog referrer resource declared := by
  have hsound := Document.sound_of_resolve hresolve
  obtain ⟨level, hheld, hgives, rfl⟩ := hreach.exists_level hsound hplan
  exact ⟨level.resource, hgives.exists_authorized hheld hsound⟩

/-- The rows of cabins within an area are tested as the entry for the relation permits. -/
theorem authorized_cabins :
    ∃ entry ∈ Sample.plan.relations, entry.1 = "cabins" ∧ entry.2.filters ≠ [] ∧
      ∃ resource declared, entry.2.Authorized Sample.catalog
        (.nested "area" "cabins" true) resource declared := by
  have hfilters : ∃ entry ∈ Sample.plan.relations,
      entry.1 = "cabins" ∧ entry.2.filters.length ≠ 0 := by decide +kernel
  obtain ⟨entry, hentry, hname, hlength⟩ := hfilters
  refine ⟨entry, hentry, hname, List.length_pos_iff.1 (by omega), ?_⟩
  have hroot : Sample.plan.Reaches .single .single Sample.plan := .root
  have hreach := hroot.along hentry
  have hresource : Sample.plan.resource = "area" := by decide +kernel
  rw [hresource, hname] at hreach
  exact authorized Sample.resolve_document Sample.plan_request hreach

end Plan.Reaches

end RestQuery
