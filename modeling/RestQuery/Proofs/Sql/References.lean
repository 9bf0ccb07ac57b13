import RestQuery.Proofs.Answer
import RestQuery.Proofs.Plan.Columns
import RestQuery.Proofs.Sql.Scopes

/-!
# The columns of a query

The columns of a query are of the tables that they are meant for, and of fields that those
declare.  A field that a level shows is one of its resource or of the link table of the relation
that leads to it, provided that no two relations have a name for capability entries in common.

Main statement: `Document.query_resolves`.
-/

namespace RestQuery

open Sql

namespace Sql

variable {document : Document} {catalog : Catalog} {level : Level} {site : Site}
  {outer : List Site} {clause : Clause}

/-- A site at which the selection for a level stands. -/
structure Site.Of (site : Site) (level : Level) : Prop where
  resource : site.resource = level.resource
  via : site.via = level.via

theorem Site.Of.link_iff (hof : site.Of level) {name : String} :
    (level.linkFields.get? name).isSome ↔ (site.link?.bind (·.fields.get? name)).isSome := by
  have hlink : site.link? = level.link? := by
    rw [Site.link?, Level.link?, hof.via]
  rw [Level.linkFields, hlink]
  cases level.link? with
  | none => simp
  | some link => rfl

theorem Site.declares_link {name : String}
    (hfield : (site.link?.bind (·.fields.get? name)).isSome) :
    site.Declares ⟨.link site.name, name⟩ := by
  obtain ⟨type, htype⟩ := Option.isSome_iff_exists.1 hfield
  obtain ⟨link, hlink, hfound⟩ := Option.bind_eq_some_iff.1 htype
  exact .link hlink (Option.isSome_iff_exists.2 ⟨type, hfound⟩)

/-- A field by which a level may be ordered is declared at its site. -/
theorem Site.Of.declares_orders (hof : site.Of level) {field : FieldRef}
    (horders : level.Orders field) : site.Declares (site.column field) := by
  obtain ⟨scope, name⟩ := field
  rcases horders with ⟨hscope, hfield⟩ | ⟨hscope, hfield⟩
  · obtain rfl : scope = .resource := hscope
    exact .field (hof.resource ▸ hfield)
  · obtain rfl : scope = .link := hscope
    exact declares_link (hof.link_iff.1 hfield)

@[simp]
theorem Site.name_output (site : Site) (name : String) : (site.output name).name = name := by
  rw [Site.output]
  split <;> rfl

/-- The column that shows a field of the resource or of the link table is declared. -/
theorem Site.declares_output {name : String} (hfield : site.HasField name) :
    site.Declares (site.output name).column := by
  rw [Site.output]
  split
  next type htype => exact .field (Option.isSome_iff_exists.2 ⟨type, htype⟩)
  next hnone =>
    rcases hfield with hfield | hfield
    · rw [hnone] at hfield
      cases hfield
    · exact declares_link hfield

/-! ## Conditions -/

/-- The tests of a clause are resolved where the column of its field is. -/
theorem Site.resolves_condition {inner : Site} {type : FieldType} {field : FieldRef}
    {operator : Operator} (happlies : clause.Applies type field operator)
    (hdeclares : inner.Declares (site.column field)) :
    (site.condition clause).Resolves catalog (inner :: outer) := by
  induction happlies with
  | test => exact .test hdeclares.refersTo hdeclares
  | anyOf _ _ ih =>
      rw [Clause.anyOf, condition, conditionList_eq_map]
      exact .group (List.forall_mem_map.2 ih)

/-- A clause about no relation is resolved at the site of its level. -/
theorem Site.resolves_plain (hof : site.Of level) (hheld : level.Held catalog)
    {joins : Table JoinKind} (htests : level.Tests catalog joins clause)
    (hplain : relationOf? clause = none) :
    (site.condition clause).Resolves catalog (site :: outer) := by
  cases htests with
  | search =>
      have hcolumn : site.Declares ⟨site.name, site.resource.searchColumn⟩ := .search
      rw [hof.resource] at hcolumn
      exact .test hcolumn.refersTo hcolumn
  | @field field type operator _ htype happlies =>
      apply resolves_condition happlies
      obtain ⟨scope, name⟩ := field
      cases scope with
      | resource =>
          exact .field (hof.resource ▸ Option.isSome_iff_exists.2 ⟨type, htype⟩)
      | link =>
          have hfield : (site.link?.bind (·.fields.get? name)).isSome := by
            rw [link?, hof.via, hheld.via, Option.bind_assoc]
            exact Option.isSome_iff_exists.2 ⟨type, htype⟩
          exact declares_link hfield
      | relation name => simp [relationOf?, happlies.scope?_eq] at hplain
  | excluded hscope _ => simp [relationOf?, hscope] at hplain

/-- A clause about a relation is resolved within the condition for the relation. -/
theorem Site.resolves_joined (hof : site.Of level) {joins : Table JoinKind}
    (htests : level.Tests catalog joins clause) {name : String}
    (habout : relationOf? clause = some name) (hjoin : joins.get? name ≠ some .leftExclusive)
    {relation : Relation} {joined : Site}
    (hfollow : site.follow catalog name (·.target) (.join site.name name)
      = .ok (relation, joined)) :
    (site.condition clause).Resolves catalog (joined :: site :: outer) := by
  obtain ⟨hrelation, target, htarget, rfl⟩ := follow_eq_ok_iff.1 hfollow
  cases htests with
  | search => simp [relationOf?, Clause.onField, Clause.scope?] at habout
  | @field field type operator _ htype happlies =>
      apply resolves_condition happlies
      obtain ⟨scope, fieldName⟩ := field
      cases scope with
      | resource => simp [relationOf?, happlies.scope?_eq] at habout
      | link => simp [relationOf?, happlies.scope?_eq] at habout
      | relation other =>
          obtain rfl : other = name := by simpa [relationOf?, happlies.scope?_eq] using habout
          rw [hof.resource] at hrelation
          have hfield : target.fields.get? fieldName = some type := by
            simpa [Catalog.fieldType?, hrelation, htarget] using htype
          exact .field (Option.isSome_iff_exists.2 ⟨type, hfield⟩)
  | excluded hscope hexcluded =>
      obtain rfl := by simpa [relationOf?, hscope] using habout
      exact absurd hexcluded hjoin

/-- The rows of a selection are tied to those of the selection around it, whose tables have
other names. -/
theorem Site.resolves_correlation {inner : Site} {relation : Relation}
    (hvia : inner.via = some relation) (hname : inner.name.text ≠ site.name.text)
    (hlink : (Alias.link inner.name).text ≠ site.name.text) :
    (inner.correlation site.name relation).Resolves catalog (inner :: site :: outer) := by
  have houter : Column.RefersTo ⟨site.name, relation.sourceKey⟩ (inner :: site :: outer) 1 :=
    refersTo_outer rfl hname hlink
  rw [correlation]
  split
  next link hsome =>
    have hlinked : inner.link? = some link := by
      rw [link?, hvia, Option.bind_some, hsome]
    exact .correlation (refersTo_link hlinked rfl) houter
  next => exact .correlation (refersTo_own rfl) houter

/-- The condition for a join is resolved at the site of the level. -/
theorem Site.resolves_joinCondition (hof : site.Of level) {filters : List Clause}
    {joins : Table JoinKind} (htests : ∀ clause ∈ filters, level.Tests catalog joins clause)
    {name : String} {join : JoinKind}
    (hjoin : join = .inner → joins.get? name ≠ some .leftExclusive) {condition : Condition}
    (hcondition : site.joinCondition catalog filters name join = .ok condition) :
    condition.Resolves catalog (site :: outer) := by
  obtain ⟨relation, joined, hfollow, rfl⟩ := joinCondition_eq_ok_iff.1 hcondition
  refine .related hfollow (joined.joins_source (site :: outer)) ?_
  obtain ⟨-, target, -, hjoined⟩ := follow_eq_ok_iff.1 hfollow
  rw [List.forall_mem_cons, conditionList_eq_map, List.forall_mem_map]
  constructor
  · rw [hjoined]
    exact resolves_correlation rfl (Alias.text_join_ne site.name name)
      (Alias.text_link_join_ne site.name name)
  · intro clause hmem
    cases join with
    | leftExclusive => cases hmem
    | inner =>
        obtain ⟨hclause, habout⟩ := List.mem_filter.1 hmem
        exact resolves_joined hof (htests clause hclause) (of_decide_eq_true habout) (hjoin rfl)
          hfollow

/-! ## Selections -/

/-- The fields that the levels of plans show are declared, at least those with certain
names. -/
def ShowsDeclared (catalog : Catalog) (shown : Site → String → Prop) : Prop :=
  ∀ {level : Level} {site : Site} {plan : Plan}, level.Held catalog → level.Rooted →
    level.Gives catalog plan → site.Of level → ∀ name ∈ plan.fields, shown site name →
      site.HasField name

/-- A relation that a plan shows leads to the level below, for which the selection is. -/
theorem Site.Shows.exists_child (hsound : catalog.Sound) {plan : Plan}
    (hgives : level.Gives catalog plan) (hheld : level.Held catalog) (hof : site.Of level)
    {entry : String × Plan} (hentry : entry ∈ plan.relations) {depth : Nat}
    {result : String × RelationKind × Select} (hshows : site.Shows catalog depth entry result) :
    ∃ (relation : Relation) (child : Level) (inner : Site),
      child.via = some relation ∧ child.Held catalog ∧ child.Gives catalog entry.2 ∧
      inner.Of child ∧ inner.name = .level (depth + 1) ∧
      site.follow catalog result.1 (·.target) (.level (depth + 1)) = .ok (relation, inner) ∧
      inner.select catalog (depth + 1) [inner.correlation site.name relation] entry.2
        = .ok result.2.2 := by
  obtain ⟨relation, inner, hfollow, select, hselect, rfl⟩ := hshows
  obtain ⟨found, child, hrelation, hchild, hsub⟩ := hgives.relation hentry
  obtain ⟨hsame, resource, hresource, rfl⟩ := follow_eq_ok_iff.1 hfollow
  rw [hof.resource] at hsame
  obtain rfl : relation = found := Option.some.inj (hsame.symm.trans hrelation)
  have hchildHeld := hheld.of_child hsound hrelation hchild
  obtain ⟨target, htarget, rfl⟩ := Level.child_eq_ok_iff.1 hchild
  obtain ⟨_, _, _, hnamed, -⟩ := hsub.read
  rw [hnamed, hchildHeld.resource] at hresource
  obtain rfl := Option.some.inj hresource
  exact ⟨relation, _, _, rfl, hchildHeld, hsub, ⟨rfl, rfl⟩, rfl,
    follow_eq_ok_iff.2 ⟨hof.resource ▸ hsame, target, htarget, rfl⟩, hselect⟩

/-- The rows for a relation are tied to those of the selection one level up. -/
theorem Site.resolves_tie {inner : Site} {relation : Relation} {depth : Nat}
    (hvia : inner.via = some relation) (hinner : inner.name = .level (depth + 1))
    (hname : site.name = .level depth) :
    (inner.correlation site.name relation).Resolves catalog (inner :: site :: outer) := by
  apply resolves_correlation hvia
  · rw [hinner, hname]
    intro heq
    have hsucc := Alias.text_level_inj heq
    omega
  · rw [hname]
    exact Alias.text_link_ne_level _ _

/-- What a plan's clauses and joins become is resolved at the site of its level. -/
theorem Site.resolves_conditions (hof : site.Of level) (hheld : level.Held catalog) {plan : Plan}
    (hfilters : ∀ clause ∈ plan.filters, level.Tests catalog plan.joins clause)
    {related : List Condition}
    (hrelated : List.Forall₂ (fun entry condition =>
        site.joinCondition catalog plan.filters entry.1 entry.2 = .ok condition)
      (joins plan).entries related) :
    ∀ condition ∈ site.conditionList (plan.filters.filter (relationOf? · = none)) ++ related,
      condition.Resolves catalog (site :: outer) := by
  rw [List.forall_mem_append, conditionList_eq_map, List.forall_mem_map]
  constructor
  · intro clause hmem
    obtain ⟨hclause, hplain⟩ := List.mem_filter.1 hmem
    exact resolves_plain hof hheld (hfilters clause hclause) (of_decide_eq_true hplain)
  · intro condition hmem
    obtain ⟨⟨name, join⟩, hentry, hcondition⟩ := exists_of_mem_right hrelated hmem
    refine resolves_joinCondition hof hfilters ?_ hcondition
    rintro rfl hexcluded
    have hjoin := Table.get?_eq_some_iff.2 hentry
    rw [get?_joins, hexcluded] at hjoin
    cases hjoin

/-- Rows are put in order by declared columns, of which the key is the last. -/
theorem Site.Of.declares_order (hof : site.Of level) {order : List OrderEntry}
    (horders : ∀ item ∈ order, level.Orders item.field) :
    ∀ entry ∈ site.order order, site.Declares entry.1 := by
  intro entry hmem
  rcases List.mem_append.1 hmem with hmem | hmem
  · obtain ⟨item, hitem, rfl⟩ := List.mem_map.1 hmem
    exact hof.declares_orders (horders item hitem)
  · split at hmem
    · cases hmem
    · rw [List.mem_singleton.1 hmem]
      exact .id

/-- The selection for the plan of a level is resolved at a site of the level, within the
selections around it. -/
theorem Site.resolves_select (hresolve : document.resolve = .ok catalog)
    {shown : Site → String → Prop} (hshown : ShowsDeclared catalog shown) {plan : Plan}
    (hgives : level.Gives catalog plan) (hheld : level.Held catalog) (hrooted : level.Rooted)
    (hof : site.Of level) (hname : site.name = .level outer.length) {first : List Condition}
    (hfirst : ∀ condition ∈ first, condition.Resolves catalog (site :: outer))
    {select : Select}
    (hselect : site.select catalog outer.length first plan = .ok select) :
    select.Resolves catalog shown (site :: outer) := by
  induction plan using Plan.induction generalizing level site outer first select with
  | step plan ih =>
      have hrefers := hgives.refers hheld hresolve
      obtain ⟨below, related, hbelow, hrelated, rfl⟩ := select_eq_ok_iff.1 hselect
      have hentries : ∀ result ∈ below, ∃ relation inner,
          site.follow catalog result.1 (·.target) (.level (outer.length + 1))
            = .ok (relation, inner) ∧
          result.2.2.Resolves catalog shown (inner :: site :: outer) := by
        intro result hmem
        obtain ⟨entry, hentry, hshows⟩ := exists_of_mem_right hbelow hmem
        obtain ⟨relation, child, inner, hvia, hchildHeld, hsub, hchildOf, hinner, hfollow,
          hother⟩ := hshows.exists_child (Document.sound_of_resolve hresolve) hgives hheld hof
            hentry
        have hchildRooted : child.Rooted := fun hnone => by rw [hvia] at hnone; cases hnone
        have hplace : inner.name = .level (site :: outer).length := hinner
        refine ⟨relation, inner, hfollow,
          ih entry hentry hsub hchildHeld hchildRooted hchildOf hplace ?_ hother⟩
        exact List.forall_mem_singleton.2 (resolves_tie (hchildOf.via.trans hvia) hinner hname)
      refine .intro rfl (site.joins_source outer) ?outputs ?conditions ?order ?follows ?relations
      case outputs =>
        intro output hmem hname
        obtain ⟨name, hfield, rfl⟩ := List.mem_map.1 hmem
        rw [name_output] at hname
        have hdeclares : site.Declares (site.output name).column :=
          declares_output (hshown hheld hrooted hgives hof name hfield hname)
        exact ⟨hdeclares.refersTo, hdeclares⟩
      case conditions =>
        rw [List.append_assoc, List.forall_mem_append]
        exact ⟨hfirst, resolves_conditions hof hheld hrefers.filters hrelated⟩
      case order =>
        intro entry hmem
        have hdeclares := hof.declares_order hrefers.order entry hmem
        exact ⟨hdeclares.refersTo, hdeclares⟩
      case follows =>
        intro result hmem
        obtain ⟨relation, inner, hfollow, -⟩ := hentries result hmem
        rw [hfollow]
        rfl
      case relations =>
        intro result hmem relation inner hfollow
        obtain ⟨_, _, hsame, hresolves⟩ := hentries result hmem
        rw [hfollow] at hsame
        cases hsame
        exact hresolves

end Sql

/-- Every column of the query for a plan is of the table that it is meant for and is declared,
except perhaps columns that show what is no field.  There are none of these if no two relations
have a name for capability entries in common. -/
theorem Document.query_resolves {document : Document} {catalog : Catalog}
    (hresolve : document.resolve = .ok catalog) {name : String} {target : Target}
    {params : Params} {plan : Plan} (hplan : catalog.plan name target params = .ok plan)
    (key : Option String) :
    ∃ (resource : Resource) (select : Select),
      catalog.resources.get? name = some resource ∧
      catalog.query plan key = .ok (.ofPieces key select.pieces) ∧
      select.Resolves catalog Site.HasField [⟨resource, .level 0, none⟩] ∧
      (document.DistinctReferrers →
        select.Resolves catalog (fun _ _ => True) [⟨resource, .level 0, none⟩]) := by
  have hsound := sound_of_resolve hresolve
  obtain ⟨query, hquery⟩ := hsound.exists_query hplan key
  obtain ⟨level, hroot, hwithin⟩ := bind_eq_ok_iff.1 hplan
  have hgives := Level.gives_of_planWithin hwithin
  have hheld := Level.held_of_root hsound hroot
  obtain ⟨resource, select, hresource, hselect, rfl⟩ := query_eq_ok_iff.1 hquery
  obtain ⟨found, hfound, rfl⟩ := Level.root_eq_ok_iff.1 hroot
  rw [(hgives.refers hheld hresolve).resource, hheld.resource] at hresource
  obtain rfl := Option.some.inj hresource
  let level : Level := { resource := found, referrer := target.referrer, trace := found.name }
  have hrooted : level.Rooted := by
    intro _
    cases target with
    | list => exact .inl rfl
    | single => exact .inr rfl
  have hof : Site.Of ⟨found, .level 0, none⟩ level := ⟨rfl, rfl⟩
  have hfirst : ∀ condition ∈ keyConditions found key,
      condition.Resolves catalog [⟨found, .level 0, none⟩] := by
    intro condition hmem
    have hid : Site.Declares ⟨found, .level 0, none⟩ ⟨.level 0, found.id⟩ := .id
    rw [keyConditions] at hmem
    split at hmem
    · rw [List.mem_singleton.1 hmem]
      exact .isKey hid.refersTo hid
    · cases hmem
  have hresolves : ∀ {shown : Site → String → Prop}, ShowsDeclared catalog shown →
      select.Resolves catalog shown [⟨found, .level 0, none⟩] := fun hshown =>
    Site.resolves_select hresolve hshown hgives hheld hrooted hof rfl hfirst hselect
  refine ⟨found, select, hfound, hquery, hresolves fun _ _ _ _ _ _ hfield => hfield,
    fun hdistinct => hresolves ?_⟩
  intro level site plan hheld hrooted hgives hof name hmem _
  rcases hgives.hasField hheld hrooted hresolve hdistinct hmem with hfield | hlink
  · exact .inl (hof.resource ▸ hfield)
  · exact .inr (hof.link_iff.1 hlink)

theorem query_resolves_cabins :
    ∃ (resource : Resource) (select : Select),
      Sample.catalog.resources.get? "area" = some resource ∧
      Sample.catalog.query Sample.plan (some "7") = .ok (.ofPieces (some "7") select.pieces) ∧
      select.Resolves Sample.catalog (fun _ _ => True) [⟨resource, .level 0, none⟩] := by
  have hdistinct : Sample.document.DistinctReferrers :=
    Document.distinctReferrers_of_points (by decide +kernel)
  obtain ⟨resource, select, hresource, hquery, -, hresolves⟩ :=
    Document.query_resolves Sample.resolve_document Sample.plan_request (some "7")
  exact ⟨resource, select, hresource, hquery, hresolves hdistinct⟩

namespace Sample

/-- Areas with two relations to cabins, of which one has a name that makes its capability entry
for any area that of the other one for a single area. -/
def crossed : Document :=
  { resources :=
      [ { name := "area"
          table := "areas"
          fields := .ofList [("id", .uuid)]
          relations := .ofList
            [("cabins", ⟨"cabin", .toMany, "id", "area_id", none⟩),
             ("single.cabins", ⟨"cabin", .toMany, "id", "id", some
               { table := "area_cabins", sourceKey := "area_id", targetKey := "cabin_id",
                 fields := .ofList [("note", .string)] }⟩)]
          capabilities := .ofList [("default", { fullFields := ["id"] })] },
        { name := "cabin"
          table := "cabins"
          fields := .ofList [("id", .uuid), ("area_id", .uuid)]
          capabilities := .ofList
            [("default", { fullFields := ["id"] }),
             ("area.single.cabins", { fullFields := ["id", "note"] })] } ] }

def crossedCatalog : Catalog := crossed.resolve.toOption.getD {}

def crossedRequest : Params := ⟨.ofList [("fields", .string "id,cabins")]⟩

def crossedPlan : Plan := (crossedCatalog.plan "area" .single crossedRequest).toOption.getD default

end Sample

/-- The cabins of an area are shown with a note of a link table that the statement does not
read. -/
theorem query_resolves_crossed :
    Sample.crossed.resolve = .ok Sample.crossedCatalog ∧
      Sample.crossedCatalog.plan "area" .single Sample.crossedRequest
        = .ok Sample.crossedPlan ∧
      Sample.crossedPlan.errors = [] ∧
      ∃ (resource : Resource) (select : Select),
        Sample.crossedCatalog.resources.get? "area" = some resource ∧
        Sample.crossedCatalog.query Sample.crossedPlan none
          = .ok (.ofPieces none select.pieces) ∧
        ¬select.Resolves Sample.crossedCatalog (fun _ _ => True)
          [⟨resource, .level 0, none⟩] := by
  have hfacts : Sample.crossed.resolve.isOk = true ∧
      (Sample.crossedCatalog.plan "area" .single Sample.crossedRequest).isOk = true ∧
      Sample.crossedPlan.errors = [] ∧
      (Sample.crossedCatalog.resources.get? "area").isSome = true ∧
      (select Sample.crossedCatalog Sample.crossedPlan false).isOk = true := by decide +kernel
  obtain ⟨hresolve, hplan, herrors, hknown, hok⟩ := hfacts
  refine ⟨eq_ok_of_isOk _ hresolve, eq_ok_of_isOk _ hplan, herrors, ?_⟩
  obtain ⟨resource, hresource⟩ := Option.isSome_iff_exists.1 hknown
  obtain ⟨select, hselect⟩ := exists_ok_of_isOk hok
  refine ⟨resource, select, hresource, bind_eq_ok_iff.2 ⟨select, hselect, rfl⟩, fun hresolves => ?_⟩
  have hnote : (Sql.select Sample.crossedCatalog Sample.crossedPlan false).toOption.any
      (fun select => select.relations.any fun entry => entry.1 = "cabins" ∧
        entry.2.2.outputs.any (·.column = ⟨.link (.level 1), "note"⟩)) = true := by decide +kernel
  have hnowhere : (Sample.crossedCatalog.resources.get? "area").any (fun resource =>
      (Site.follow Sample.crossedCatalog ⟨resource, .level 0, none⟩ "cabins" (·.target)
        (.level 1)).toOption.any fun found =>
          place? [found.2, ⟨resource, .level 0, none⟩] (Alias.link (.level 1)).text = none)
        = true := by decide +kernel
  rw [hselect, Except.toOption, Option.any_some, List.any_eq_true] at hnote
  obtain ⟨⟨name, kind, inner⟩, hentry, hnote⟩ := hnote
  obtain ⟨rfl, hshown⟩ := of_decide_eq_true hnote
  obtain ⟨output, houtput, hcolumn⟩ := List.any_eq_true.1 hshown
  cases hresolves with
  | intro _ _ _ _ _ hfollows hrelations =>
      obtain ⟨⟨relation, joined⟩, hfollow⟩ := exists_ok_of_isOk (hfollows _ hentry)
      cases hrelations _ hentry relation joined hfollow with
      | intro _ _ houtputs =>
          have hrefers := (houtputs output houtput trivial).1
          rw [Column.RefersTo, of_decide_eq_true hcolumn] at hrefers
          rw [hresource, Option.any_some] at hnowhere
          have hfound : Site.follow Sample.crossedCatalog ⟨resource, .level 0, none⟩ "cabins"
            (·.target) (.level 1) = .ok (relation, joined) := hfollow
          rw [hfound] at hnowhere
          have hnone : place? [joined, ⟨resource, .level 0, none⟩]
            (Alias.link (.level 1)).text = none := of_decide_eq_true hnowhere
          rw [hnone] at hrefers
          cases hrefers

end RestQuery
