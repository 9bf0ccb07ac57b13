import RestQuery.Proofs.Answer
import RestQuery.Proofs.Plan.Joins
import RestQuery.Proofs.Sql.Conditions
import RestQuery.Proofs.Sql.Renaming

/-!
# Quoted names in queries

The names of schemas, tables, columns and outputs reach the text of a query between quotes only, and
so do those of the relations that it shows.  The names of the relations that it joins do not: they
are part of the names by which the query refers to tables, which are not quoted.

Main statement: `Document.query_quotes`.
-/

namespace RestQuery

open Sql

namespace Sql

variable {catalog : Catalog} {site : Site} {joined : String → Prop}

/-! ## The relations in aliases -/

/-- The relations in the names of tables have a property. -/
def Within (joined : String → Prop) (tables : List Alias) : Prop :=
  ∀ table ∈ tables, ∀ name ∈ table.relations, joined name

@[simp]
theorem within_nil : Within joined [] := nofun

@[simp]
theorem within_cons {table : Alias} {rest : List Alias} :
    Within joined (table :: rest) ↔ (∀ name ∈ table.relations, joined name) ∧ Within joined rest :=
  List.forall_mem_cons

@[simp]
theorem within_append {first second : List Alias} :
    Within joined (first ++ second) ↔ Within joined first ∧ Within joined second :=
  List.forall_mem_append

namespace Site

theorem within_column (hsite : ∀ name ∈ site.name.relations, joined name) {field : FieldRef}
    (hfield : ∀ name, field.scope = .relation name → joined name) :
    ∀ name ∈ (site.column field).table.relations, joined name := by
  rw [column]
  cases hscope : field.scope with
  | resource | link => exact hsite
  | relation name =>
      exact List.forall_mem_append.2 ⟨hsite, List.forall_mem_singleton.2 (hfield name hscope)⟩

theorem within_source (hsite : ∀ name ∈ site.name.relations, joined name) :
    Within joined site.source.tables := by
  rw [Source.tables]
  split
  next link hlink =>
    obtain ⟨hinner, houter⟩ := source_link hlink
    simp only [hinner, houter, within_cons, within_nil, and_true]
    exact ⟨hsite, hsite, hsite⟩
  next => exact within_cons.2 ⟨hsite, within_nil⟩

theorem within_correlation (hsite : ∀ name ∈ site.name.relations, joined name) {outer : Alias}
    (houter : ∀ name ∈ outer.relations, joined name) (relation : Relation) :
    Within joined (site.correlation outer relation).tables := by
  rw [correlation]
  split
  · exact within_cons.2 ⟨hsite, within_cons.2 ⟨houter, within_nil⟩⟩
  · exact within_cons.2 ⟨hsite, within_cons.2 ⟨houter, within_nil⟩⟩

theorem within_output (hsite : ∀ name ∈ site.name.relations, joined name) (field : String) :
    ∀ name ∈ (site.output field).column.table.relations, joined name := by
  rw [output]
  split
  · exact hsite
  · exact hsite

theorem within_order (hsite : ∀ name ∈ site.name.relations, joined name)
    {entries : List OrderEntry}
    (hfields : ∀ entry ∈ entries, ∀ name, entry.field.scope = .relation name → joined name) :
    Within joined ((site.order entries).map (·.1.table)) := by
  rw [order, List.map_append, within_append]
  constructor
  · refine List.forall_mem_map.2 (List.forall_mem_map.2 fun entry hmem => ?_)
    exact within_column hsite (hfields entry hmem)
  · split
    · exact within_nil
    · exact within_cons.2 ⟨within_column hsite nofun, within_nil⟩

mutual

/-- The condition for a clause names tables for the relations of its fields only. -/
theorem within_condition (hsite : ∀ name ∈ site.name.relations, joined name) :
    ∀ clause : Clause,
      (∀ field ∈ clause.fields, ∀ name, field.scope = .relation name → joined name) →
        Within joined (site.condition clause).tables
  | ⟨.test check, none, operands, parts⟩, _ => within_nil
  | ⟨.test check, some field, operands, parts⟩, hfields =>
      within_cons.2 ⟨within_column hsite (hfields field List.mem_cons_self), within_nil⟩
  | ⟨.group connective, field, operands, parts⟩, hfields => by
      rw [condition, Condition.tables]
      apply within_conditionList hsite
      exact fun other hmem => hfields other (List.mem_append_right _ hmem)

theorem within_conditionList (hsite : ∀ name ∈ site.name.relations, joined name) :
    ∀ clauses : List Clause,
      (∀ field ∈ Clause.fieldsAll clauses, ∀ name, field.scope = .relation name → joined name) →
        Within joined (Condition.tablesAll (site.conditionList clauses))
  | [], _ => within_nil
  | clause :: rest, hfields => by
      obtain ⟨hclause, hrest⟩ := List.forall_mem_append.1 hfields
      rw [conditionList, Condition.tablesAll, within_append]
      exact ⟨within_condition hsite clause hclause, within_conditionList hsite rest hrest⟩

end

end Site

end Sql

mutual

/-- A clause about a relation has a field of the relation. -/
theorem Clause.exists_field_of_scope? : ∀ {clause : Clause} {scope : Scope},
    clause.scope? = some scope → ∃ field ∈ clause.fields, field.scope = scope
  | ⟨_, some field, _, _⟩, _, hscope =>
      ⟨field, List.mem_cons_self, Option.some.inj hscope⟩
  | ⟨_, none, _, parts⟩, scope, hscope => by
      have hfirst : Clause.firstScope? parts = some scope := hscope
      exact Clause.exists_field_of_firstScope? hfirst

theorem Clause.exists_field_of_firstScope? : ∀ {parts : List Clause} {scope : Scope},
    Clause.firstScope? parts = some scope →
      ∃ field ∈ Clause.fieldsAll parts, field.scope = scope
  | [], _, hscope => by cases hscope
  | part :: rest, scope, hscope => by
      rw [Clause.firstScope?, Option.or_eq_some_iff] at hscope
      rcases hscope with hfirst | ⟨-, hrest⟩
      · obtain ⟨field, hmem, hfield⟩ := Clause.exists_field_of_scope? hfirst
        exact ⟨field, List.mem_append_left _ hmem, hfield⟩
      · obtain ⟨field, hmem, hfield⟩ := Clause.exists_field_of_firstScope? hrest
        exact ⟨field, List.mem_append_right _ hmem, hfield⟩

end

namespace Sql

variable {catalog : Catalog} {site : Site} {joined : String → Prop} {plan node : Plan}
  {depth : Nat} {first : List Condition} {select : Select}

/-- The joins of a node that joins the relations of its fields are those that it names. -/
theorem Site.mem_joins_iff (hjoins : node.JoinsFields) {name : String} :
    name ∈ (joins node).keys ↔ name ∈ node.joins.keys := by
  rw [Table.mem_keys_iff, Table.mem_keys_iff, get?_joins]
  constructor
  · rintro ⟨join, hjoin⟩
    rcases Option.or_eq_some_iff.1 hjoin with hnamed | ⟨-, htaken⟩
    · exact ⟨join, hnamed⟩
    · obtain ⟨hmem, -⟩ := Option.ite_none_right_eq_some.1 htaken
      obtain ⟨clause, hclause, hrelation⟩ := List.mem_filterMap.1 hmem
      have hscope : clause.scope? = some (.relation name) := by
        rw [relationOf?] at hrelation
        split at hrelation
        next other hother => rw [hother, Option.some.inj hrelation]
        next => cases hrelation
      obtain ⟨field, hfield, hfieldScope⟩ := Clause.exists_field_of_scope? hscope
      have href : field ∈ node.fieldRefs := Plan.mem_fieldRefs_of_clause hclause hfield
      exact Table.mem_keys_iff.1 (hjoins field href name hfieldScope)
  · rintro ⟨join, hjoin⟩
    exact ⟨join, by rw [hjoin]; rfl⟩

/-- The condition for a join names tables for the relation and for those of its clauses. -/
theorem Site.within_joinCondition (hsite : ∀ name ∈ site.name.relations, joined name)
    {filters : List Clause}
    (hfields : ∀ clause ∈ filters, ∀ field ∈ clause.fields, ∀ name,
      field.scope = .relation name → joined name)
    {name : String} (hname : joined name) {join : JoinKind} {condition : Condition}
    (hcondition : site.joinCondition catalog filters name join = .ok condition) :
    Within joined condition.tables := by
  obtain ⟨relation, inner, hfollow, rfl⟩ := joinCondition_eq_ok_iff.1 hcondition
  obtain ⟨-, target, -, heq⟩ := follow_eq_ok_iff.1 hfollow
  have hinner : ∀ other ∈ inner.name.relations, joined other := by
    rw [heq]
    exact List.forall_mem_append.2 ⟨hsite, List.forall_mem_singleton.2 hname⟩
  rw [Condition.tables, Condition.tablesAll, within_append, within_append]
  refine ⟨within_source hinner, within_correlation hinner hsite relation, ?_⟩
  apply within_conditionList hsite
  rw [Clause.fieldsAll_eq_flatMap]
  intro field hmem
  obtain ⟨clause, hclause, hfield⟩ := List.mem_flatMap.1 hmem
  cases join with
  | inner => exact hfields clause (List.mem_of_mem_filter hclause) field hfield
  | leftExclusive => cases hclause

/-- The clauses of a plan and the conditions for its joins name tables for relations that the plan
joins. -/
theorem Site.within_conditions (hjoins : plan.JoinsFields)
    (hjoined : ∀ name ∈ plan.joins.keys, joined name)
    (hsite : ∀ name ∈ site.name.relations, joined name) {related : List Condition}
    (hrelated : List.Forall₂ (fun entry condition =>
        site.joinCondition catalog plan.filters entry.1 entry.2 = .ok condition)
      (joins plan).entries related) :
    Within joined (Condition.tablesAll
        (site.conditionList (plan.filters.filter (relationOf? · = none)))) ∧
      Within joined (Condition.tablesAll related) := by
  have hclauses : ∀ clause ∈ plan.filters, ∀ field ∈ clause.fields, ∀ name,
      field.scope = .relation name → joined name := by
    intro clause hclause field hfield name hscope
    have href : field ∈ plan.fieldRefs := Plan.mem_fieldRefs_of_clause hclause hfield
    exact hjoined name (hjoins field href name hscope)
  constructor
  · apply within_conditionList hsite
    rw [Clause.fieldsAll_eq_flatMap]
    intro field hmem
    obtain ⟨clause, hclause, hfield⟩ := List.mem_flatMap.1 hmem
    exact hclauses clause (List.mem_of_mem_filter hclause) field hfield
  · rw [tablesAll_eq_flatMap]
    intro table htable
    obtain ⟨condition, hcondition, htable⟩ := List.mem_flatMap.1 htable
    obtain ⟨⟨name, join⟩, hentry, hcompiled⟩ := exists_of_mem_right hrelated hcondition
    have hname : name ∈ (Site.joins plan).keys := List.mem_map_of_mem hentry
    have hnamed := hjoined name ((mem_joins_iff hjoins).1 hname)
    exact within_joinCondition hsite hclauses hnamed hcompiled table htable

/-- The relations in the names of the tables of a selection are joins of nodes. -/
theorem Site.within_select (hjoins : ∀ node ∈ plan.nodes, node.JoinsFields)
    (hjoined : ∀ node ∈ plan.nodes, ∀ name ∈ node.joins.keys, joined name)
    (hsite : ∀ name ∈ site.name.relations, joined name)
    (hfirst : Within joined (Condition.tablesAll first))
    (hselect : site.select catalog depth first plan = .ok select) :
    Within joined select.tables := by
  induction plan using Plan.induction generalizing site depth first select with
  | step plan ih =>
      have hself : plan ∈ plan.nodes := Plan.mem_nodes_iff.2 (.inl rfl)
      have hnodes : ∀ entry ∈ plan.relations, ∀ node ∈ entry.2.nodes, node ∈ plan.nodes :=
        fun entry hentry node hnode => Plan.mem_nodes_iff.2 (.inr ⟨entry, hentry, hnode⟩)
      obtain ⟨below, related, hbelow, hrelated, rfl⟩ := select_eq_ok_iff.1 hselect
      obtain ⟨hplain, hjoin⟩ :=
        within_conditions (hjoins plan hself) (hjoined plan hself) hsite hrelated
      simp only [Select.tables, tablesAll_append, within_append]
      refine ⟨⟨⟨⟨?outputs, ?relations⟩, within_source hsite⟩, ⟨hfirst, hplain⟩, hjoin⟩, ?order⟩
      case outputs =>
        exact List.forall_mem_map.2 (List.forall_mem_map.2 fun name _ => within_output hsite name)
      case relations =>
        rw [tablesBelow_eq_flatMap]
        intro table htable
        obtain ⟨result, hresult, htable⟩ := List.mem_flatMap.1 htable
        obtain ⟨entry, hentry, relation, inner, hfollow, part, hpart, rfl⟩ :=
          exists_of_mem_right hbelow hresult
        obtain ⟨-, resource, -, heq⟩ := follow_eq_ok_iff.1 hfollow
        have hinner : ∀ name ∈ inner.name.relations, joined name := by
          rw [heq]
          exact nofun
        have htied : Within joined
            (Condition.tablesAll [inner.correlation site.name relation]) := by
          rw [Condition.tablesAll, Condition.tablesAll, List.append_nil]
          exact within_correlation hinner hsite relation
        exact ih entry hentry (fun node hnode => hjoins node (hnodes entry hentry node hnode))
          (fun node hnode => hjoined node (hnodes entry hentry node hnode)) hinner htied hpart
          table htable
      case order =>
        refine within_order hsite fun entry hmem name hscope => hjoined plan hself name ?_
        have href : entry.field ∈ plan.fieldRefs := Plan.mem_fieldRefs_of_order hmem
        exact hjoins plan hself entry.field href name hscope

/-- The name of a joined relation is part of the words of a selection. -/
theorem Site.exists_alias_of_join (hresource : catalog.resources.get? plan.resource =
      some site.resource) (hselect : site.select catalog depth first plan = .ok select)
    (hnode : node ∈ plan.nodes) {name : String} (hjoin : name ∈ node.joins.keys) :
    ∃ table : Alias, .text (Alias.join table name).text ∈ select.pieces := by
  obtain ⟨inner, _, _, part, -, hpart, hinfix⟩ :=
    exists_select_of_mem_nodes hresource hselect hnode
  obtain ⟨join, hfound⟩ := Table.mem_keys_iff.1 hjoin
  have hjoined : (Site.joins node).get? name = some join := by
    rw [get?_joins, hfound, Option.some_or]
  obtain ⟨below, related, -, hrelated, heq⟩ := select_eq_ok_iff.1 hpart
  obtain ⟨condition, hcondition, hcompiled⟩ :=
    exists_of_mem_left hrelated (Table.get?_eq_some_iff.1 hjoined)
  obtain ⟨relation, target, hfollow, rfl⟩ := joinCondition_eq_ok_iff.1 hcompiled
  obtain ⟨-, resource, -, rfl⟩ := follow_eq_ok_iff.1 hfollow
  have hrelated : related ⊆ part.conditions := by
    rw [heq]
    exact List.subset_append_right _ _
  have hpieces := Select.infix_condition (hrelated hcondition)
  refine ⟨inner.name, hinfix.subset (hpieces.subset ?_)⟩
  simp [Condition.pieces, Source.pieces, Site.source]

end Sql

/-- The relations in the names of the tables of a query are joins of nodes of its plan. -/
theorem Document.within_select {document : Document} {catalog : Catalog}
    (hresolve : document.resolve = .ok catalog) {resource : String} {target : Target}
    {params : Params} {plan : Plan} (hplan : catalog.plan resource target params = .ok plan)
    {keyed : Bool} {select : Sql.Select} (hselect : Sql.select catalog plan keyed = .ok select) :
    Sql.Within (fun name => ∃ node ∈ plan.nodes, name ∈ node.joins.keys) select.tables := by
  obtain ⟨level, hroot, hwithin⟩ := bind_eq_ok_iff.1 hplan
  have hheld := Level.held_of_root (sound_of_resolve hresolve) hroot
  have hjoins : ∀ node ∈ plan.nodes, node.JoinsFields := fun node =>
    (Level.gives_of_planWithin hwithin).joinsFields hresolve hheld
  obtain ⟨found, -, hsite⟩ := bind_eq_ok_iff.1 hselect
  refine Sql.Site.within_select hjoins (fun node hnode name hname => ⟨node, hnode, hname⟩)
    (List.forall_mem_nil _) ?_ hsite
  cases keyed with
  | false => exact Sql.within_nil
  | true => simp [Sql.Condition.tablesAll, Sql.Condition.tables, Sql.Alias.relations]

/-- The query of a plan has the names of schemas, tables, columns and outputs between quotes only:
with any other ones, and with other relations in its aliases than those that nodes join, its text is
read with other quoted names and the same characters outside.  The relations that nodes join have
their names outside. -/
theorem Document.query_quotes {document : Document} {catalog : Catalog}
    (hresolve : document.resolve = .ok catalog) {resource : String} {target : Target}
    {params : Params} {plan : Plan} (hplan : catalog.plan resource target params = .ok plan)
    (hquotes : ∀ node ∈ plan.nodes, ∀ name ∈ node.joins.keys, '"' ∉ name.toList)
    (key : Option String) :
    ∃ select : Sql.Select, Sql.select catalog plan key.isSome = .ok select ∧
      catalog.query plan key = .ok (.ofPieces key select.pieces) ∧
      (∀ names relations : String → String,
        (∀ node ∈ plan.nodes, ∀ name ∈ node.joins.keys, relations name = name) →
          Sql.lexemes (Sql.Query.ofPieces key (select.renamed names relations).pieces).text =
            (Sql.lexemes (Sql.Query.ofPieces key select.pieces).text).map
              (Sql.Lexeme.renamed names)) ∧
      (∀ node ∈ plan.nodes, ∀ name ∈ node.joins.keys,
        name.toList.map .char <:+: Sql.lexemes (Sql.Query.ofPieces key select.pieces).text) ∧
      ∀ name, .unclosed name ∉ Sql.lexemes (Sql.Query.ofPieces key select.pieces).text := by
  obtain ⟨query, hquery⟩ := (sound_of_resolve hresolve).exists_query hplan key
  obtain ⟨select, hselect, hpieces⟩ := bind_eq_ok_iff.1 hquery
  obtain rfl := pure_eq_ok_iff.1 hpieces
  obtain ⟨found, hfound, hsite⟩ := bind_eq_ok_iff.1 hselect
  have hjoined := within_select hresolve hplan hselect
  have hwords : ∀ table ∈ select.tables, ∀ name ∈ table.relations,
      Sql.isUnquoted name = true := by
    intro table htable name hname
    obtain ⟨node, hnode, hjoin⟩ := hjoined table htable name hname
    exact Sql.isUnquoted_iff.2 (hquotes node hnode name hjoin)
  have hspaced : Sql.Spaced select.pieces := Sql.spaced_select fun table htable =>
    Sql.Alias.isUnquoted_text (hwords table htable)
  refine ⟨select, hselect, hquery, fun names relations hfixed => ?_,
    fun node hnode name hname => ?_, fun name => ?_⟩
  · refine Sql.Select.lexemes_renamed (fun table htable name hname => ?_) key
    obtain ⟨node, hnode, hjoin⟩ := hjoined table htable name hname
    exact ⟨hwords table htable name hname, hfixed node hnode name hjoin⟩
  · obtain ⟨table, hword⟩ := Sql.Site.exists_alias_of_join (Catalog.resource_eq_ok_iff.1 hfound)
      hsite hnode hname
    rw [hspaced.lexemes]
    refine List.IsInfix.trans ?_ (Sql.infix_lexemesFrom hword _)
    rw [Sql.Alias.text, String.toList_append, List.map_append]
    exact (List.suffix_append _ _).isInfix
  · rw [hspaced.lexemes]
    exact Sql.unclosed_notMem_lexemesFrom name _ _

namespace Sample

/-- Areas with huts, which callers may ask for to be there. -/
def sheltered (relation : String) : Document :=
  { resources :=
      [ { name := "area"
          table := "areas"
          fields := .ofList [("id", .uuid)]
          relations := .ofList [(relation, ⟨"hut", .toMany, "id", "area_id", none⟩)]
          capabilities := .ofList
            [("default", { filters := .ofList [(relation, {})], fullFields := ["id"] })] },
        { name := "hut"
          table := "huts"
          fields := .ofList [("id", .uuid), ("area_id", .uuid)]
          capabilities := .ofList [("default", { fullFields := ["id"] })] } ] }

def shelteredCatalog (relation : String) : Catalog := (sheltered relation).resolve.toOption.getD {}

def shelteredRequest (relation : String) : Params := ⟨.ofList [(relation, .string "")]⟩

def shelteredPlan (relation : String) : Plan :=
  ((shelteredCatalog relation).plan "area" .list (shelteredRequest relation)).toOption.getD default

end Sample

/-- The query for areas with huts has the name of the relation outside quotes, and with other names
of tables it has the same characters there. -/
theorem query_quotes_huts :
    ∃ select : Sql.Select,
      (Sample.shelteredCatalog "huts").query (Sample.shelteredPlan "huts") none =
        .ok (.ofPieces none select.pieces) ∧
      Sql.lexemes (Sql.Query.ofPieces none (select.renamed (· ++ "\"") id).pieces).text =
        (Sql.lexemes (Sql.Query.ofPieces none select.pieces).text).map
          (Sql.Lexeme.renamed (· ++ "\"")) ∧
      "huts".toList.map .char <:+: Sql.lexemes (Sql.Query.ofPieces none select.pieces).text := by
  have hresolve : (Sample.sheltered "huts").resolve = .ok (Sample.shelteredCatalog "huts") :=
    eq_ok_of_isOk {} (by decide +kernel)
  have hplan : (Sample.shelteredCatalog "huts").plan "area" .list (Sample.shelteredRequest "huts") =
      .ok (Sample.shelteredPlan "huts") := eq_ok_of_isOk default (by decide +kernel)
  have hjoins : (Sample.shelteredPlan "huts").nodes.map (·.joins.keys) = [["huts"]] := by
    decide +kernel
  have hnames : ∀ node ∈ (Sample.shelteredPlan "huts").nodes, ∀ name ∈ node.joins.keys,
      name = "huts" := by
    intro node hnode name hname
    have hkeys : node.joins.keys ∈ [["huts"]] := hjoins ▸ List.mem_map_of_mem hnode
    rw [List.mem_singleton.1 hkeys] at hname
    exact List.mem_singleton.1 hname
  obtain ⟨root, hroot⟩ : ∃ root, root ∈ (Sample.shelteredPlan "huts").nodes ∧
      "huts" ∈ root.joins.keys := by
    have hmem : ["huts"] ∈ (Sample.shelteredPlan "huts").nodes.map (·.joins.keys) :=
      hjoins ▸ List.mem_cons_self
    obtain ⟨root, hroot, hkeys⟩ := List.mem_map.1 hmem
    exact ⟨root, hroot, hkeys ▸ List.mem_cons_self⟩
  obtain ⟨select, -, hquery, hrenamed, houtside, -⟩ := Document.query_quotes hresolve hplan
    (fun node hnode name hname => by rw [hnames node hnode name hname]; decide) none
  exact ⟨select, hquery, hrenamed _ _ fun _ _ _ _ => rfl, houtside root hroot.1 _ hroot.2⟩

/-- The name of a relation with a blank stands outside quotes, and with another name other
characters do. -/
theorem query_quotes_mountain :
    (Sample.sheltered "mountain huts").resolve = .ok (Sample.shelteredCatalog "mountain huts") ∧
      (Sample.shelteredCatalog "mountain huts").plan "area" .list
          (Sample.shelteredRequest "mountain huts") = .ok (Sample.shelteredPlan "mountain huts") ∧
      (Sample.shelteredPlan "mountain huts").errors = [] ∧
      ∃ select : Sql.Select,
        Sql.select (Sample.shelteredCatalog "mountain huts") (Sample.shelteredPlan "mountain huts")
          false = .ok select ∧
        "mountain huts".toList.map .char <:+:
          Sql.lexemes (Sql.Query.ofPieces none select.pieces).text ∧
        Sql.lexemes (Sql.Query.ofPieces none (select.renamed id fun _ => "huts").pieces).text ≠
          (Sql.lexemes (Sql.Query.ofPieces none select.pieces).text).map
            (Sql.Lexeme.renamed id) := by
  have hfacts : (Sample.sheltered "mountain huts").resolve.isOk = true ∧
      ((Sample.shelteredCatalog "mountain huts").plan "area" .list
        (Sample.shelteredRequest "mountain huts")).isOk = true ∧
      (Sample.shelteredPlan "mountain huts").errors = [] ∧
      (Sql.select (Sample.shelteredCatalog "mountain huts") (Sample.shelteredPlan "mountain huts")
        false).isOk = true ∧
      (Sql.select (Sample.shelteredCatalog "mountain huts") (Sample.shelteredPlan "mountain huts")
        false).toOption.any (fun select =>
          (∀ table ∈ select.tables, Sql.isUnquoted table.text = true) ∧
          (∀ table ∈ (select.renamed id fun _ => "huts").tables,
            Sql.isUnquoted table.text = true) ∧
          .text "t0_mountain huts" ∈ select.pieces ∧
          (Sql.lexemesFrom 1 (select.renamed id fun _ => "huts").pieces).length ≠
            (Sql.lexemesFrom 1 select.pieces).length) = true := by
    decide +kernel
  obtain ⟨hresolve, hplan, herrors, hok, hselected⟩ := hfacts
  obtain ⟨select, hselect⟩ := exists_ok_of_isOk hok
  rw [hselect, Except.toOption, Option.any_some] at hselected
  obtain ⟨htables, hothers, hword, hlength⟩ := of_decide_eq_true hselected
  have hread : Sql.lexemes (Sql.Query.ofPieces none select.pieces).text =
      Sql.lexemesFrom 1 select.pieces := (Sql.spaced_select htables).lexemes none
  refine ⟨eq_ok_of_isOk _ hresolve, eq_ok_of_isOk _ hplan, herrors, select, hselect, ?_, ?_⟩
  · rw [hread]
    exact List.IsInfix.trans ⟨['t', '0', '_'].map .char, [], by decide⟩
      (Sql.infix_lexemesFrom hword 1)
  · intro heq
    rw [hread, (Sql.spaced_select hothers).lexemes none] at heq
    exact hlength ((congrArg List.length heq).trans (List.length_map _))

end RestQuery
