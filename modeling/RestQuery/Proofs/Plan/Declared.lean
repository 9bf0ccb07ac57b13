import RestQuery.Proofs.Order
import RestQuery.Proofs.Plan.Controls
import RestQuery.Proofs.Projection.Names

/-!
# Requests for declared names

The names of a catalog stand in it as they are, while those of a request are read: keys and
names are brought into normal form, values are cut at commas and spaces.  So a declared filter,
ordering or field can be asked for by its name only if reading the name gives it back.

Main statement: `Document.declared_requestable`, on the resource of a request for a list.
-/

namespace RestQuery

/-! ## Requests of one parameter -/

namespace Level

variable {level : Level} {capability : Capability} {control : Control} {key value : String}

/-- Where the one parameter of a request goes, if its value is a text. -/
def routedAlone (level : Level) (capability : Capability) (key value : String) : Routed :=
  (Params.ofObject [(key, .string value)]).route (level.keys capability) level.trace

/-- A request of a key and a text is the filter of that key, and nothing else. -/
def FiltersBy (level : Level) (capability : Capability) (key value : String) : Prop :=
  ∃ parameter : Parameter, parameter.key = key ∧ parameter.rawValue = .text value ∧
    level.routedAlone capability key value = { filters := [parameter] }

/-- A request for an ordering by a field alone is one, without an error. -/
def OrdersBy (level : Level) (capability : Capability) (field : String) : Prop :=
  let routed := level.routedAlone capability Control.order.name (field ++ " asc")
  (routed.control? .order).isSome ∧
    level.order capability routed = ([⟨⟨.resource, field⟩, .ascending⟩], [])

/-- A request for a name alone shows it, without an error. -/
def Shows (level : Level) (capability : Capability) (name : String)
    (shown : Projection → List String) : Prop :=
  let routed := level.routedAlone capability Control.fields.name name
  (routed.control? .fields).isSome ∧ ∃ projection named,
    level.projection capability routed = (projection, named, []) ∧ name ∈ shown projection

/-- No filter and no relation of a level has the name of a control. -/
def Frees (level : Level) (capability : Capability) (control : Control) : Prop :=
  control.name ∉ capability.filters.keys ∧ control.name ∉ level.resource.relations.keys

instance : Decidable (level.Frees capability control) :=
  inferInstanceAs (Decidable (_ ∧ _))

theorem routedAlone_eq (level : Level) (capability : Capability) (key value : String) :
    level.routedAlone capability key value =
      Routed.add {} (.string value) ((level.keys capability).routeParameter
        (.ofEntry level.trace key (.text value))) := rfl

theorem sameLevel_of_root (hvia : level.via = none) :
    (level.keys capability).sameLevel = false := by
  rw [keys, hvia]
  rfl

/-- A declared filter can be asked for at the root exactly if its key is in normal form. -/
theorem filtersBy_iff (hvia : level.via = none) (hkey : key ∈ capability.filters.keys) :
    level.FiltersBy capability key value ↔ Key.normal key = key := by
  constructor
  · rintro ⟨parameter, hparameter, -, hrouted⟩
    have hmem : parameter ∈ (level.routedAlone capability key value).filters := by
      rw [hrouted]
      exact List.mem_singleton_self parameter
    obtain ⟨entry, hentry, hroute⟩ := (Params.route_stems _ _ _).filters parameter hmem
    obtain rfl : entry = (key, .string value) := List.mem_singleton.1 hentry
    obtain ⟨given, -, hgiven⟩ := Keys.exists_value_of_route hroute nofun
    have hkeys : parameter.keys = Key.normalSegments key := by
      rw [Keys.filter_of_routeParameter hgiven, Keys.ownSegments, sameLevel_of_root hvia]
      rfl
    rwa [Parameter.key, hkeys] at hparameter
  · intro hnormal
    refine ⟨.ofEntry level.trace key (.text value), hnormal, rfl, ?_⟩
    have hroute : (level.keys capability).routeParameter (.ofEntry level.trace key (.text value)) =
        .filter (.ofEntry level.trace key (.text value)) := by
      have hsame : (Parameter.ofEntry level.trace key (.text value)).key = key := hnormal
      rw [Keys.routeParameter, sameLevel_of_root hvia]
      simp [hsame, keys, hkey]
    rw [routedAlone_eq, hroute]
    rfl

/-! ## Controls -/

def controlParameter (level : Level) (control : Control) (value : String) : Parameter :=
  .ofEntry level.trace control.name (.text value)

theorem keys_controlParameter :
    (level.controlParameter control value).keys = [control.name] := by
  have hname : Key.normalSegments control.name = [control.name] := by
    cases control <;> decide +kernel
  exact hname

/-- A filter or a relation with the name of a control takes its place. -/
theorem routeParameter_of_keys {parameter : Parameter} (hkeys : parameter.keys = [control.name])
    (hoffered : control ∈ controls capability) :
    (level.keys capability).routeParameter parameter =
      if control.name ∈ capability.filters.keys then .filter parameter
      else if control.name ∈ level.resource.relations.keys then
        .refused (parameter.error .relationKeyRequired)
      else .control parameter := by
  have hkey : parameter.key = control.name := by
    rw [Parameter.key, hkeys, Key.ofSegments_singleton]
  have hfirst : parameter.firstKey = control.name := by
    rw [Parameter.firstKey, hkeys]
    rfl
  have hnamed : control.name ∈ (controls capability).map Control.name :=
    List.mem_map_of_mem hoffered
  rw [Keys.routeParameter]
  simp [hkey, hfirst, hkeys, keys, hnamed]

/-- A control alone is given to the level unless a filter or a relation has its name. -/
theorem control?_routedAlone (hoffered : control ∈ controls capability) :
    (level.routedAlone capability control.name value).control? control =
      if control.name ∈ capability.filters.keys ∨ control.name ∈ level.resource.relations.keys
        then none else some (level.controlParameter control value) := by
  rw [routedAlone_eq, ← controlParameter, routeParameter_of_keys keys_controlParameter hoffered]
  have hkey : (level.controlParameter control value).key = control.name := by
    rw [Parameter.key, keys_controlParameter, Key.ofSegments_singleton]
  by_cases hfilter : control.name ∈ capability.filters.keys
  · simp [hfilter, Routed.add, Routed.control?]
  · by_cases hrelation : control.name ∈ level.resource.relations.keys
    · simp [hfilter, hrelation, Routed.add, Routed.refuse, Routed.control?]
    · simp [hfilter, hrelation, Routed.add, Routed.control?, hkey, Table.contains]

theorem control?_of_frees (hoffered : control ∈ controls capability)
    (hfrees : level.Frees capability control) (value : String) :
    (level.routedAlone capability control.name value).control? control =
      some (level.controlParameter control value) := by
  rw [control?_routedAlone hoffered, if_neg (not_or.2 hfrees)]

theorem frees_of_isSome (hoffered : control ∈ controls capability)
    (hgiven : ((level.routedAlone capability control.name value).control? control).isSome) :
    level.Frees capability control := by
  rw [control?_routedAlone hoffered] at hgiven
  split at hgiven
  next => cases hgiven
  next hfrees => exact not_or.1 hfrees

/-! ## What a request of one parameter comes to -/

theorem controlValue_eq_iff {α : Type} {parameter : Parameter} {default found : α}
    {read : Parameter → Except RequestError α} :
    controlValue (some parameter) default read = (found, []) ↔ read parameter = .ok found := by
  rw [controlValue]
  cases read parameter <;> simp

theorem order_eq_iff {routed : Routed} {entries : List OrderEntry}
    (hordered : capability.ordered = true)
    (hgiven : routed.control? .order = some (level.controlParameter .order value)) :
    level.order capability routed = (entries, []) ↔
      Order.read ⟨capability.orderFields, (level.link?.map (·.orderFields)).getD []⟩
        (Text.trim value) = .ok entries := by
  have hsingle : (level.controlParameter .order value).value.single? = some (Text.trim value) := rfl
  rw [order, if_pos hordered, hgiven, controlValue_eq_iff, readOrder_eq_ok_iff, hsingle]
  simp only [Option.some.injEq, exists_eq_left']

theorem ordersBy_iff (hordered : capability.ordered = true) {field : String}
    (hfield : field ∈ capability.orderFields) :
    level.OrdersBy capability field ↔
      level.Frees capability .order ∧ Key.normalSegment field = field ∧ field ≠ "" ∧
        ',' ∉ field.toList ∧ ' ' ∉ field.toList := by
  have hoffered : Control.order ∈ controls capability := by simp [controls, hordered]
  constructor
  · rintro ⟨hgiven, horder⟩
    have hfrees := frees_of_isSome hoffered hgiven
    rw [order_eq_iff hordered (control?_of_frees hoffered hfrees _)] at horder
    exact ⟨hfrees, (Order.read_asc_iff hfield).1 horder⟩
  · rintro ⟨hfrees, hnamed⟩
    have hgiven := control?_of_frees hoffered hfrees (field ++ " asc")
    exact ⟨by rw [hgiven]; rfl,
      (order_eq_iff hordered hgiven).2 ((Order.read_asc_iff hfield).2 hnamed)⟩

/-- The projection that the level reads from a request for a name alone. -/
def draftAlone (level : Level) (capability : Capability) (name : String) : Projection.Draft :=
  Projection.read capability (level.names capability) (Text.trim name)

theorem projection_eq {routed : Routed} {name : String}
    (hgiven : routed.control? .fields = some (level.controlParameter .fields name)) :
    level.projection capability routed =
      ((level.draftAlone capability name).projection, (level.draftAlone capability name).named,
        (level.draftAlone capability name).problems.map
          (level.controlParameter .fields name).error) := by
  rw [projection, hgiven]
  rfl

theorem shows_iff {name : String} {shown : Projection → List String} :
    level.Shows capability name shown ↔
      level.Frees capability .fields ∧ (level.draftAlone capability name).problems = [] ∧
        name ∈ shown (level.draftAlone capability name).projection := by
  have hoffered : Control.fields ∈ controls capability := by simp [controls]
  constructor
  · rintro ⟨hgiven, projection, named, hprojection, hmem⟩
    have hfrees := frees_of_isSome hoffered hgiven
    rw [projection_eq (control?_of_frees hoffered hfrees _)] at hprojection
    simp only [Prod.mk.injEq, List.map_eq_nil_iff] at hprojection
    obtain ⟨rfl, -, hproblems⟩ := hprojection
    exact ⟨hfrees, hproblems, hmem⟩
  · rintro ⟨hfrees, hproblems, hmem⟩
    have hgiven := control?_of_frees hoffered hfrees name
    refine ⟨by rw [hgiven]; rfl, _, (level.draftAlone capability name).named, ?_, hmem⟩
    rw [projection_eq hgiven, hproblems]
    rfl

/-! ## Names at the resource of a request -/

theorem shows_field_iff {name : String} (hfull : name ∈ capability.fullFields) :
    level.Shows capability name (·.fields) ↔
      level.Frees capability .fields ∧
        (Projection.Plain name ∨
          name ∈ (Projection.seed capability (Projection.tokens (Text.trim name))).fields ∧
            Projection.Clean (level.names capability) (Projection.tokens (Text.trim name))) := by
  have hfield : (level.names capability).isField name = true := by
    simp [NameSpace.isField, names, hfull]
  rw [shows_iff, draftAlone, Projection.problems_read_eq_nil_iff,
    Projection.mem_fields_read_iff hfield, Projection.shown_alone_iff (by rw [hfield]; rfl)
      (Projection.isWord_of_mem_seed rfl)]

theorem shows_relation_iff (hvia : level.via = none) {name : String}
    (hrelation : name ∈ level.resource.relations.keys) (hfull : name ∉ capability.fullFields) :
    level.Shows capability name (·.relations) ↔
      level.Frees capability .fields ∧
        (Projection.Plain name ∨
          name ∈ (Projection.seed capability (Projection.tokens (Text.trim name))).relations ∧
            Projection.Clean (level.names capability) (Projection.tokens (Text.trim name))) := by
  have hlinks : level.linkFields = .empty := by rw [linkFields, link?, hvia]; rfl
  have hknown : (level.names capability).isRelation name = true := by
    simp [NameSpace.isRelation, names, hrelation]
  have hfield : (level.names capability).isField name = false := by
    simp [NameSpace.isField, names, hfull, hlinks, Table.keys, Table.empty]
  have hmeans : Projection.meansRelation (level.names capability) name = true := by
    rw [Projection.meansRelation, hfield, hknown]
    rfl
  rw [shows_iff, draftAlone, Projection.problems_read_eq_nil_iff,
    Projection.mem_relations_read_iff hmeans,
    Projection.shown_alone_iff (by rw [hknown, Bool.or_true])
      (Projection.isWord_of_mem_seed rfl)]

/-- A request for a list is served by an entry for no relation. -/
theorem point_notMem_entry {catalog : Catalog} {resource entry : String}
    (hroot : root catalog resource .list = .ok level)
    (hcapability : level.capability = .ok (entry, capability)) : '.' ∉ entry.toList := by
  obtain ⟨found, -, rfl⟩ := root_eq_ok_iff.1 hroot
  obtain ⟨declared, hdeclared, -⟩ := capability_eq_ok_iff.1 hcapability
  obtain ⟨passed, rest, hnames, -⟩ := Resource.capability_eq_ok_iff.1 hdeclared
  have hentry : entry ∈ ["*list", defaultReferrer] := by
    change entry ∈ Referrer.candidates .list ++ [defaultReferrer]
    exact hnames ▸ List.mem_append_right passed List.mem_cons_self
  rcases List.mem_cons.1 hentry with rfl | hdefault
  · decide
  · rw [List.mem_singleton.1 hdefault]
    decide

/-- At the resource of a request for a list, relations are no full fields. -/
theorem relation_notMem_fullFields {document : Document} {catalog : Catalog}
    (hresolve : document.resolve = .ok catalog) {resource entry : String}
    (hroot : root catalog resource .list = .ok level)
    (hcapability : level.capability = .ok (entry, capability)) {name : String}
    (hrelation : name ∈ level.resource.relations.keys) : name ∉ capability.fullFields := by
  intro hfull
  have hheld := held_of_root (Document.sound_of_resolve hresolve) hroot
  have hdeclared := hheld.declared_of_capability hresolve hcapability
  obtain ⟨relation, hget⟩ := Table.mem_keys_iff.1 hrelation
  rcases hdeclared.full name hfull with hfield | hlink
  · rw [Document.field_of_relation hresolve hheld.resource hget] at hfield
    cases hfield
  · rw [Document.linkFieldsFor_eq_none (point_notMem_entry hroot hcapability)] at hlink
    cases hlink

end Level

/-- A declared name can be asked for by itself exactly if it is read as it is written.  For a filter
its key is in normal form.  For a field to order by the name is in normal form, and neither empty
nor cut by a comma or a space.  For a field or a relation to show the name means itself, or it
starts with a word that stands for it.  No filter and no relation takes the place of the control. -/
theorem Document.declared_requestable {document : Document} {catalog : Catalog}
    (hresolve : document.resolve = .ok catalog) {resource entry : String} {level : Level}
    {capability : Capability} (hroot : Level.root catalog resource .list = .ok level)
    (hcapability : level.capability = .ok (entry, capability)) :
    (∀ key ∈ capability.filters.keys, ∀ value : String,
      level.FiltersBy capability key value ↔ Key.normal key = key) ∧
    (capability.ordered = true → ∀ field ∈ capability.orderFields,
      (level.OrdersBy capability field ↔
        level.Frees capability .order ∧ Key.normalSegment field = field ∧ field ≠ "" ∧
          ',' ∉ field.toList ∧ ' ' ∉ field.toList)) ∧
    (∀ field ∈ capability.fullFields,
      (level.Shows capability field (·.fields) ↔
        level.Frees capability .fields ∧
          (Projection.Plain field ∨
            field ∈ (Projection.seed capability (Projection.tokens (Text.trim field))).fields ∧
              Projection.Clean (level.names capability)
                (Projection.tokens (Text.trim field))))) ∧
    ∀ relation ∈ level.resource.relations.keys,
      (level.Shows capability relation (·.relations) ↔
        level.Frees capability .fields ∧
          (Projection.Plain relation ∨
            relation ∈
                (Projection.seed capability (Projection.tokens (Text.trim relation))).relations ∧
              Projection.Clean (level.names capability)
                (Projection.tokens (Text.trim relation)))) := by
  have hvia : level.via = none := by
    obtain ⟨found, -, rfl⟩ := Level.root_eq_ok_iff.1 hroot
    rfl
  exact ⟨fun key hkey value => Level.filtersBy_iff hvia hkey,
    fun hordered field hfield => Level.ordersBy_iff hordered hfield,
    fun field hfield => Level.shows_field_iff hfield,
    fun relation hrelation => Level.shows_relation_iff hvia hrelation
      (Level.relation_notMem_fullFields hresolve hroot hcapability hrelation)⟩

namespace Sample

def nearbyCapability (field relation : String) : Capability :=
  { ordered := true
    orderFields := [field]
    filters := .ofList [(field, {}), (relation ++ "." ++ field, {})]
    fullFields := ["id", field]
    defaultFields := [fullWord] }

/-- Cabins with one field besides the key, and with a relation to other cabins. -/
def nearby (field relation : String) : Document :=
  { resources :=
      [ { name := "cabin"
          table := "cabins"
          fields := .ofList [("id", .uuid), (field, .string)]
          relations := .ofList [(relation, ⟨"cabin", .toMany, "id", "id", none⟩)]
          capabilities := .ofList
            [("default", { order := some { fields := [field] }
                           filters := .ofList [(field, {}), (relation ++ "." ++ field, {})]
                           fullFields := ["id", field] })] } ] }

def nearbyCatalog (field relation : String) : Catalog :=
  (nearby field relation).resolve.toOption.getD {}

def nearbyLevel (field relation : String) : Level :=
  { resource :=
      { name := "cabin"
        schema := "public"
        table := "cabins"
        id := "id"
        searchColumn := "search_document"
        fields := .ofList [("id", .uuid), (field, .string)]
        relations := .ofList [(relation, ⟨relation, "cabin", .toMany, "id", "id", none⟩)]
        capabilities := .ofList [("default", nearbyCapability field relation)] }
    referrer := .list
    trace := "cabin" }

end Sample

/-- Cabins are filtered by the names of cabins nearby, ordered by name and shown with it and with
the cabins nearby. -/
theorem declared_requestable_name :
    (Sample.nearby "name" "nearby").resolve = .ok (Sample.nearbyCatalog "name" "nearby") ∧
      ∃ level capability,
        Level.root (Sample.nearbyCatalog "name" "nearby") "cabin" .list = .ok level ∧
        level.capability = .ok ("default", capability) ∧
        "nearby.name" ∈ capability.filters.keys ∧
        level.FiltersBy capability "nearby.name" "~hut" ∧
        capability.ordered = true ∧ "name" ∈ capability.orderFields ∧
        level.OrdersBy capability "name" ∧
        "name" ∈ capability.fullFields ∧ level.Shows capability "name" (·.fields) ∧
        "nearby" ∈ level.resource.relations.keys ∧
        level.Shows capability "nearby" (·.relations) := by
  have hresolve : (Sample.nearby "name" "nearby").resolve =
      .ok (Sample.nearbyCatalog "name" "nearby") := eq_ok_of_isOk {} (by decide +kernel)
  have hroot : Level.root (Sample.nearbyCatalog "name" "nearby") "cabin" .list =
      .ok (Sample.nearbyLevel "name" "nearby") :=
    Level.root_eq_ok_iff.2 ⟨_, by decide +kernel, rfl⟩
  have hcapability : (Sample.nearbyLevel "name" "nearby").capability =
      .ok ("default", Sample.nearbyCapability "name" "nearby") :=
    Level.capability_eq_ok_iff.2 ⟨_, rfl, rfl⟩
  obtain ⟨hfilters, horders, hfields, hrelations⟩ :=
    Document.declared_requestable hresolve hroot hcapability
  refine ⟨hresolve, _, _, hroot, hcapability, by decide +kernel, ?_, rfl, by decide +kernel, ?_,
    by decide +kernel, ?_, by decide +kernel, ?_⟩
  · exact (hfilters _ (by decide +kernel) _).2 (by decide +kernel)
  · exact (horders rfl _ (by decide +kernel)).2 (by decide +kernel)
  · exact (hfields _ (by decide +kernel)).2 ⟨by decide +kernel, .inl (by decide +kernel)⟩
  · exact (hrelations _ (by decide +kernel)).2 ⟨by decide +kernel, .inl (by decide +kernel)⟩

/-- A document may declare names with capitals, which no request can mean. -/
theorem not_requestable_capitals :
    (Sample.nearby "Name" "Nearby").resolve = .ok (Sample.nearbyCatalog "Name" "Nearby") ∧
      ∃ level capability,
        Level.root (Sample.nearbyCatalog "Name" "Nearby") "cabin" .list = .ok level ∧
        level.capability = .ok ("default", capability) ∧
        "Name" ∈ capability.filters.keys ∧ ¬level.FiltersBy capability "Name" "x" ∧
        capability.ordered = true ∧ "Name" ∈ capability.orderFields ∧
        ¬level.OrdersBy capability "Name" ∧
        "Name" ∈ capability.fullFields ∧ ¬level.Shows capability "Name" (·.fields) ∧
        "Nearby" ∈ level.resource.relations.keys ∧
        ¬level.Shows capability "Nearby" (·.relations) := by
  have hfilter : "Name" ∈ (Sample.nearbyCapability "Name" "Nearby").filters.keys := by
    decide +kernel
  have hfield : "Name" ∈ (Sample.nearbyCapability "Name" "Nearby").orderFields := by
    decide +kernel
  have hfull : "Name" ∈ (Sample.nearbyCapability "Name" "Nearby").fullFields := by decide +kernel
  have hrelation : "Nearby" ∈ (Sample.nearbyLevel "Name" "Nearby").resource.relations.keys := by
    decide +kernel
  refine ⟨eq_ok_of_isOk {} (by decide +kernel), Sample.nearbyLevel "Name" "Nearby",
    Sample.nearbyCapability "Name" "Nearby", Level.root_eq_ok_iff.2 ⟨_, by decide +kernel, rfl⟩,
    Level.capability_eq_ok_iff.2 ⟨_, rfl, rfl⟩, hfilter, ?_, rfl, hfield, ?_, hfull, ?_,
    hrelation, ?_⟩
  · rw [Level.filtersBy_iff rfl hfilter]
    decide +kernel
  · rw [Level.ordersBy_iff rfl hfield]
    decide +kernel
  · rw [Level.shows_field_iff hfull]
    rintro ⟨-, hplain | ⟨hseed, -⟩⟩
    · exact absurd hplain (by decide +kernel)
    · exact absurd hseed (by decide +kernel)
  · rw [Level.shows_relation_iff rfl hrelation (by decide +kernel)]
    rintro ⟨-, hplain | ⟨hseed, -⟩⟩
    · exact absurd hplain (by decide +kernel)
    · exact absurd hseed (by decide +kernel)

end RestQuery
