import RestQuery.Proofs.Plan.Tree
import RestQuery.Proofs.Sql.Literals
import RestQuery.Proofs.Sql.Outputs

/-!
# Correlated selections

The rows of a relation are those that belong to one row of the table around it.  The selection for
a relation, which stands among the columns of the one around it, says so first, and so does each
condition on related rows: a key of the source, or of its link table, equals a key of the table
around it.  All of this is said of the pieces that are written.

Main statement: `query_correlated`, for every plan, however it came about.
-/

namespace RestQuery.Sql

/-! ## Tables and ties -/

def levelName (depth : Nat) : String := "t" ++ Nat.repr depth

def tableAs (schema table name : String) : List Piece :=
  [.name schema, .text ".", .name table, .text " ", .text name]

def equality (table column other key : String) : List Piece :=
  [.text table, .text ".", .name column, .text " = ", .text other, .text ".", .name key]

/-- Where the rows of a relation come from, under a name, and what ties them to a row of the table
around them.  A link table is tied to the row, and the table of the rows is joined to it. -/
inductive Ties (relation : Relation) (target : Resource) (outer name : String) :
    List Piece → List Piece → Prop
  | direct (hlink : relation.link = none) :
      Ties relation target outer name (tableAs target.schema target.table name)
        (equality name relation.targetKey outer relation.sourceKey)
  | linked {link : LinkTable} (hlink : relation.link = some link) :
      Ties relation target outer name
        (tableAs target.schema target.table name ++ [.text " JOIN "]
          ++ tableAs target.schema link.table (name ++ "_link") ++ [.text " ON "]
          ++ equality (name ++ "_link") link.targetKey name relation.targetKey)
        (equality (name ++ "_link") link.sourceKey outer relation.sourceKey)

/-! ## Conditions -/

/-- Pieces of which none opens a condition on related rows. -/
def Joinless (pieces : List Piece) : Prop :=
  ∀ piece ∈ pieces, ∀ join, piece ≠ .text (spelledExists join)

/-- A condition that neither is on related rows nor ties the rows of two tables. -/
structure Unrelated (part : List Piece) : Prop where
  joinless : Joinless part
  untied : ∀ table column other key, part ≠ equality table column other key

/-- A join has a condition on whether there are rows that belong to a row. -/
def JoinedRows (catalog : Catalog) (resource : Resource) (depth : Nat) (entry : String × JoinKind)
    (part : List Piece) : Prop :=
  ∃ relation target source tie others, resource.relations.get? entry.1 = some relation ∧
    catalog.resources.get? relation.target = some target ∧
    Ties relation target (levelName depth) (levelName depth ++ "_" ++ entry.1) source tie ∧
    (∀ other ∈ others, Unrelated other) ∧
    part = [.text (spelledExists entry.2)] ++ source ++ [.text " WHERE "]
      ++ separated " AND " (tie :: others) ++ [.text ")"]

/-- The joins of a plan: those that it names and, for the relations that other clauses are
about, that there is a row. -/
def JoinOf (plan : Plan) (name : String) (join : JoinKind) : Prop :=
  plan.joins.get? name = some join ∨
    plan.joins.get? name = none ∧ join = .inner ∧
      ∃ clause ∈ plan.filters, clause.scope? = some (.relation name)

def wherePieces : List (List Piece) → List Piece
  | [] => []
  | part :: rest => [.text " WHERE "] ++ separated " AND " (part :: rest)

/-! ## Selections -/

/-- A selection that is shown as a value of the one around it. -/
structure Shown where
  name : String
  relation : Relation
  target : Resource
  source : List Piece
  tie : List Piece
  pieces : List Piece

def Shown.column (shown : Shown) : List Piece :=
  [.text (wrapping shown.relation.kind).1] ++ shown.pieces
    ++ [.text (wrapping shown.relation.kind).2, .text " AS ", .name shown.name]

/-- A relation that a plan shows has a selection of the rows that belong to a row. -/
structure ShownRows (catalog : Catalog) (resource : Resource) (depth : Nat)
    (entry : String × Plan) (shown : Shown) : Prop where
  name : shown.name = entry.1
  relation : resource.relations.get? entry.1 = some shown.relation
  target : catalog.resources.get? entry.2.resource = some shown.target
  ties : Ties shown.relation shown.target (levelName depth) (levelName (depth + 1)) shown.source
    shown.tie

/-- The pieces of the selection for a plan, from a source and under some first conditions.  Among
its columns each relation that the plan shows has one selection, of which the only first condition
is the tie; among its conditions each join has one.  No other part is on related rows. -/
inductive Correlated (catalog : Catalog) :
    Resource → Nat → Plan → List Piece → List (List Piece) → List Piece → Prop
  | intro {resource : Resource} {depth : Nat} {plan : Plan} {source rest : List Piece}
      {first columns others related : List (List Piece)} {shown : List Shown}
      {joins : List (String × JoinKind)}
      (hcolumns : columns.length = plan.fields.length)
      (hfields : ∀ column ∈ columns, Joinless column)
      (hshown : List.Forall₂ (ShownRows catalog resource depth) plan.relations shown)
      (hbelow : ∀ pair ∈ plan.relations.zip shown, Correlated catalog pair.2.target (depth + 1)
        pair.1.2 pair.2.source [pair.2.tie] pair.2.pieces)
      (hothers : ∀ other ∈ others, Unrelated other)
      (hnames : (joins.map Prod.fst).Nodup)
      (hjoins : ∀ name join, (name, join) ∈ joins ↔ JoinOf plan name join)
      (hrelated : List.Forall₂ (JoinedRows catalog resource depth) joins related)
      (hrest : Joinless rest) :
      Correlated catalog resource depth plan source first
        ([.text "SELECT "] ++ separated ", " (columns ++ shown.map Shown.column)
          ++ [.text " FROM "] ++ source ++ wherePieces (first ++ others ++ related)
          ++ [.text " ORDER BY "] ++ rest)

/-! ## Conditions without joins -/

@[simp]
theorem joinless_nil : Joinless [] := List.forall_mem_nil _

@[simp]
theorem joinless_cons {piece : Piece} {rest : List Piece} :
    Joinless (piece :: rest) ↔ (∀ join, piece ≠ .text (spelledExists join)) ∧ Joinless rest :=
  List.forall_mem_cons

@[simp]
theorem joinless_append {first second : List Piece} :
    Joinless (first ++ second) ↔ Joinless first ∧ Joinless second :=
  List.forall_mem_append

/-- One of two words opens a condition on related rows. -/
@[simp]
theorem ne_spelledExists_iff {s : String} : (∀ join, ¬s = spelledExists join) ↔
    s ≠ "EXISTS (SELECT 1 FROM " ∧ s ≠ "NOT EXISTS (SELECT 1 FROM " := by
  constructor
  · intro hne
    exact ⟨hne .inner, hne .leftExclusive⟩
  · rintro ⟨hinner, houter⟩ (_ | _)
    · exact hinner
    · exact houter

theorem joinless_alias (table : Alias) : Joinless [.text table.text] := by
  have hhead := table.head?_text
  suffices hne : ∀ join, table.text ≠ spelledExists join by simpa using hne
  rintro join heq
  rw [heq] at hhead
  cases join <;> revert hhead <;> decide

theorem joinless_column (column : Column) : Joinless column.pieces := by
  have halias := joinless_alias column.table
  simp_all [Column.pieces]

theorem joinless_operand (operands : List Operand) (place : Nat) :
    Joinless (operandPieces operands place) := by
  rw [operandPieces]
  cases operands[place]? <;> simp

theorem joinless_separated {between : String} {parts : List (List Piece)}
    (hbetween : Joinless [.text between]) (hparts : ∀ part ∈ parts, Joinless part) :
    Joinless (separated between parts) :=
  forall_mem_separated (hbetween _ List.mem_cons_self) hparts

theorem joinless_check (check : Check) {column : List Piece} (hcolumn : Joinless column)
    (operands : List Operand) : Joinless (checkPieces check column operands) := by
  have hoperand := joinless_operand operands
  have hmembers : Joinless
      (separated ", " (operands.map fun operand => [.value (.ofOperand operand)])) :=
    joinless_separated (by simp) (List.forall_mem_map.2 fun operand _ => by simp)
  cases check with
  | inSet | notInSet =>
      simp only [checkPieces]
      split <;> simp [hcolumn, hmembers]
  | _ => simp [checkPieces, hcolumn, hoperand]

mutual

/-- A clause of a filter is written without a condition on related rows. -/
theorem joinless_condition (site : Site) : ∀ clause : Clause,
    Joinless (site.condition clause).pieces
  | ⟨.test check, field, operands, _⟩ => by
      rw [Site.condition, Condition.pieces]
      apply joinless_check
      cases field with
      | none => exact joinless_nil
      | some field => exact joinless_column (site.column field)
  | ⟨.group connective, _, _, parts⟩ => by
      have hparts : Joinless (separated (connectiveText connective)
          ((site.conditionList parts).map Condition.pieces)) := by
        apply joinless_separated
        · cases connective <;> simp [connectiveText]
        · exact List.forall_mem_map.2 (joinless_conditionList site parts)
      simp [Site.condition, Condition.pieces, pieceLists_eq_map, hparts]

theorem joinless_conditionList (site : Site) : ∀ clauses : List Clause,
    ∀ condition ∈ site.conditionList clauses, Joinless condition.pieces
  | [], _, hmem => by cases hmem
  | clause :: rest, condition, hmem => by
      rw [Site.conditionList] at hmem
      rcases List.mem_cons.1 hmem with rfl | hmem
      · exact joinless_condition site clause
      · exact joinless_conditionList site rest condition hmem

end

theorem joinless_output (output : Output) : Joinless output.pieces := by
  have hcolumn := joinless_column output.column
  rw [Output.pieces]
  split <;> simp [hcolumn]

theorem joinless_order (key : Column × Direction) : Joinless (orderPieces key) := by
  have hcolumn := joinless_column key.1
  rw [orderPieces]
  cases key.2 <;> simp [hcolumn, Direction.keyword]

theorem joinless_count {word : String} (hword : Joinless [.text word]) (count : Option UInt32) :
    Joinless (countPieces word count) := by
  cases count with
  | none => exact joinless_nil
  | some n =>
      have hdigits : ∀ join, Nat.repr n.toNat ≠ spelledExists join := by
        intro join heq
        have hblank : ' ' ∈ (Nat.repr n.toNat).toList := by
          rw [heq]
          cases join <;> decide
        rw [Nat.toList_repr] at hblank
        cases Nat.isDigit_of_mem_toDigits (by decide) (by decide) hblank
      refine joinless_cons.2 ⟨hword _ List.mem_cons_self, joinless_cons.2 ⟨?_, joinless_nil⟩⟩
      exact fun join heq => hdigits join (Piece.text.inj heq)

/-- Nothing behind the conditions of a selection is on related rows. -/
theorem joinless_rest (order : List (Column × Direction)) (limit offset : Option UInt32) :
    Joinless (separated ", " (order.map orderPieces) ++
      (countPieces " LIMIT " limit ++ countPieces " OFFSET " offset)) := by
  have horder : Joinless (separated ", " (order.map orderPieces)) :=
    joinless_separated (by simp) (List.forall_mem_map.2 fun key _ => joinless_order key)
  have hlimit : Joinless (countPieces " LIMIT " limit) := joinless_count (by simp) limit
  have hoffset : Joinless (countPieces " OFFSET " offset) := joinless_count (by simp) offset
  exact joinless_append.2 ⟨horder, joinless_append.2 ⟨hlimit, hoffset⟩⟩

/-! ## Conditions without ties -/

/-- A test has one name, that of its column; what it compares the column with has none. -/
theorem countP_checkPieces (check : Check) (column : List Piece) (operands : List Operand) :
    (checkPieces check column operands).countP Piece.isName ≤ column.countP Piece.isName := by
  have hoperand : ∀ place, (operandPieces operands place).countP Piece.isName = 0 := by
    intro place
    rw [operandPieces]
    cases operands[place]? <;> rfl
  have hmembers : (separated ", " (operands.map fun operand =>
      [.value (.ofOperand operand)])).countP Piece.isName = 0 := by
    refine List.countP_eq_zero.2 (forall_mem_separated (by decide) ?_)
    exact List.forall_mem_map.2 fun operand _ => by simp [Piece.isName]
  cases check with
  | inSet | notInSet =>
      simp only [checkPieces]
      split <;> simp [Piece.isName, hmembers]
  | _ => simp [checkPieces, Piece.isName, hoperand]

/-- No clause of a filter is written as two columns that are equal. -/
theorem condition_ne_equality (site : Site) (clause : Clause) (table column other key : String) :
    (site.condition clause).pieces ≠ equality table column other key := by
  obtain ⟨kind, field, operands, parts⟩ := clause
  intro heq
  cases kind with
  | test check =>
      rw [Site.condition, Condition.pieces] at heq
      have hcount := countP_checkPieces check
        (((field.map site.column).map Column.pieces).getD []) operands
      rw [heq] at hcount
      cases field <;> simp [equality, Column.pieces, Piece.isName, List.countP_cons] at hcount
  | group connective =>
      -- A group ends with a bracket, an equality with a name.
      have hlast := congrArg List.getLast? heq
      rw [Site.condition, Condition.pieces, List.getLast?_concat] at hlast
      cases hlast

theorem unrelated_condition (site : Site) (clause : Clause) :
    Unrelated (site.condition clause).pieces :=
  ⟨joinless_condition site clause, condition_ne_equality site clause⟩

theorem unrelated_isKey (column : Column) : Unrelated (Condition.isKey column).pieces where
  joinless := by simp [Condition.pieces, joinless_column]
  untied table name other key heq := by
    have hlast := congrArg List.getLast? heq
    rw [Condition.pieces, List.getLast?_append] at hlast
    cases hlast

theorem unrelated_conditionList (site : Site) (clauses : List Clause) :
    ∀ part ∈ (site.conditionList clauses).map Condition.pieces, Unrelated part := by
  rw [Site.conditionList_eq_map, List.map_map, List.forall_mem_map]
  exact fun clause _ => unrelated_condition site clause

/-! ## Relations of a site -/

variable {catalog : Catalog} {site : Site} {depth : Nat} {first : List Condition} {plan : Plan}
  {select : Select} {relation : Relation} {target : Resource} {name outer : Alias}

/-- The condition that a relation has at its site ties its rows to the table around it. -/
theorem ties_correlation (relation : Relation) (target : Resource) (outer name : Alias) :
    Ties relation target outer.text name.text (Site.source ⟨target, name, some relation⟩).pieces
      (Site.correlation ⟨target, name, some relation⟩ outer relation).pieces := by
  cases hlink : relation.link with
  | none =>
      have hties : Ties relation target outer.text name.text _ _ := .direct hlink
      simpa [Site.source, Site.correlation, Source.pieces, Condition.pieces, hlink, tableAs,
        tablePieces, equality, Column.pieces] using hties
  | some link =>
      have hties : Ties relation target outer.text name.text _ _ := .linked hlink
      simpa [Site.source, Site.correlation, Source.pieces, Condition.pieces, hlink, tableAs,
        tablePieces, equality, Column.pieces, Alias.text] using hties

/-- The joins to write are those that the plan has. -/
theorem mem_entries_joins {relation : String} {join : JoinKind} :
    (relation, join) ∈ (Site.joins plan).entries ↔ JoinOf plan relation join := by
  have habout : relation ∈ plan.filters.filterMap Site.relationOf? ↔
      ∃ clause ∈ plan.filters, clause.scope? = some (.relation relation) := by
    rw [List.mem_filterMap]
    refine exists_congr fun clause => and_congr_right fun _ => ?_
    unfold Site.relationOf?
    split <;> simp_all
  rw [← Table.get?_eq_some_iff, Site.get?_joins, JoinOf, ← habout]
  cases plan.joins.get? relation with
  | some named => simp
  | none =>
      by_cases hmem : relation ∈ plan.filters.filterMap Site.relationOf? <;> simp [hmem, eq_comm]

/-- A join is written as a condition on rows that are tied to the row of the level. -/
theorem joinedRows_of_joinCondition {entry : String × JoinKind} {condition : Condition}
    (hname : site.name = .level depth)
    (hjoin : site.joinCondition catalog plan.filters entry.1 entry.2 = .ok condition) :
    JoinedRows catalog site.resource depth entry condition.pieces := by
  obtain ⟨relation, joined, hfollow, rfl⟩ := Site.joinCondition_eq_ok_iff.1 hjoin
  obtain ⟨hrelation, target, htarget, rfl⟩ := Site.follow_eq_ok_iff.1 hfollow
  rw [hname]
  refine ⟨relation, target, _, _, _, hrelation, htarget,
    ties_correlation relation target (.level depth) (.join (.level depth) entry.1),
    unrelated_conditionList site (Site.joinClauses plan.filters entry.1 entry.2), ?_⟩
  cases entry.2 <;> simp [Condition.pieces, pieceLists_eq_map, spelledExists]

/-! ## Selections of a site -/

theorem wherePieces_map (conditions : List Condition) :
    wherePieces (conditions.map Condition.pieces) = if conditions.isEmpty then []
      else [.text " WHERE "] ++ separated " AND " (conditions.map Condition.pieces) := by
  cases conditions <;> rfl

/-- The selections for the relations that a plan shows, if what is said of them holds of those for
their plans. -/
theorem exists_shown {relations : List (String × Plan)}
    {below : List (String × RelationKind × Select)} (hname : site.name = .level depth)
    (hshows : List.Forall₂ (site.Shows catalog depth) relations below)
    (hplans : ∀ entry ∈ relations, ∀ {inner : Site} {first : List Condition} {select : Select},
      inner.name = .level (depth + 1) →
      inner.select catalog (depth + 1) first entry.2 = .ok select →
      Correlated catalog inner.resource (depth + 1) entry.2 inner.source.pieces
        (first.map Condition.pieces) select.pieces) :
    ∃ shown, List.Forall₂ (ShownRows catalog site.resource depth) relations shown ∧
      (∀ pair ∈ relations.zip shown, Correlated catalog pair.2.target (depth + 1) pair.1.2
        pair.2.source [pair.2.tie] pair.2.pieces) ∧
      Select.relationPieces below = shown.map Shown.column := by
  induction hshows with
  | nil => exact ⟨[], .nil, List.forall_mem_nil _, rfl⟩
  | @cons entry result others results hshows _ ih =>
      obtain ⟨relation, inner, hfollow, select, hselect, rfl⟩ := hshows
      obtain ⟨hrelation, target, htarget, rfl⟩ := Site.follow_eq_ok_iff.1 hfollow
      rw [hname] at hselect
      have hplan := hplans entry List.mem_cons_self rfl hselect
      obtain ⟨shown, hrows, hbelow, hpieces⟩ :=
        ih fun other hmem => hplans other (List.mem_cons_of_mem _ hmem)
      have hties := ties_correlation relation target (.level depth) (.level (depth + 1))
      refine ⟨⟨entry.1, relation, target, _, _, select.pieces⟩ :: shown,
        .cons ⟨rfl, hrelation, htarget, hties⟩ hrows, ?_, ?_⟩
      · exact List.forall_mem_cons.2 ⟨hplan, hbelow⟩
      · rw [Select.relationPieces, hpieces, List.map_cons]
        rfl

/-- The selection for a plan at a level is written with all of its relations and joins tied to the
level. -/
theorem correlated_of_select (hname : site.name = .level depth)
    (hselect : site.select catalog depth first plan = .ok select) :
    Correlated catalog site.resource depth plan site.source.pieces (first.map Condition.pieces)
      select.pieces := by
  induction plan using Plan.induction generalizing site depth first select with
  | step plan ih =>
      obtain ⟨below, related, hshows, hrelated, rfl⟩ := Site.select_eq_ok_iff.1 hselect
      obtain ⟨shown, hrows, hbelow, hpieces⟩ :=
        exists_shown hname hshows fun entry hmem => ih entry hmem
      have hjoined : List.Forall₂ (JoinedRows catalog site.resource depth) (Site.joins plan).entries
          (related.map Condition.pieces) := by
        rw [List.forall₂_map_right_iff]
        exact hrelated.imp fun _ _ hjoin => joinedRows_of_joinCondition hname hjoin
      have hcolumns : ((plan.fields.map site.output).map Output.pieces).length =
          plan.fields.length := by simp
      have hfields : ∀ column ∈ (plan.fields.map site.output).map Output.pieces, Joinless column :=
        List.forall_mem_map.2 fun output _ => joinless_output output
      have hrest := joinless_rest (site.order plan.order) plan.limit plan.offset
      rw [Select.pieces, ← wherePieces_map, List.map_append, List.map_append, hpieces,
        List.append_assoc _ (countPieces _ _), List.append_assoc _ (separated _ _)]
      exact .intro hcolumns hfields hrows hbelow (unrelated_conditionList site _)
        (Site.joins plan).keys_nodup (fun _ _ => mem_entries_joins) hjoined hrest

/-- What is written for a plan is the selection for it, in which each relation that it shows has a
selection and each join a condition, of the rows that are tied to a row of the table around them;
and so on in the selections for the relations. -/
theorem query_correlated {plan : Plan} {key : Option String} {query : Query}
    (hquery : catalog.query plan key = .ok query) :
    ∃ (resource : Resource) (first : List (List Piece)) (pieces : List Piece),
      catalog.resources.get? plan.resource = some resource ∧ query = .ofPieces key pieces ∧
      (∀ part ∈ first, Unrelated part) ∧
      Correlated catalog resource 0 plan (tableAs resource.schema resource.table "t0") first
        pieces := by
  obtain ⟨resource, select, hresource, hselect, rfl⟩ := query_eq_ok_iff.1 hquery
  have hsource : (Site.source ⟨resource, .level 0, none⟩).pieces =
      tableAs resource.schema resource.table "t0" := rfl
  refine ⟨resource, (keyConditions resource key).map Condition.pieces, select.pieces, hresource,
    rfl, ?_, hsource ▸ correlated_of_select rfl hselect⟩
  rw [List.forall_mem_map]
  intro condition hmem
  unfold keyConditions at hmem
  split at hmem
  · rw [List.mem_singleton.1 hmem]
    exact unrelated_isKey ⟨.level 0, resource.id⟩
  · cases hmem

namespace Sample

open RestQuery.Sample

/-- Areas that have a cabin with a certain number, with their cabins that have no area, and so
with the areas of these. -/
def nestedPlan : Plan :=
  { resource := "area"
    filters := [.onField .equals ⟨.relation "cabins", "id"⟩ [.integer 7]]
    fields := ["id"]
    relations :=
      [("cabins",
        { resource := "cabin"
          joins := .ofList [("area", .leftExclusive)]
          fields := ["id", "place"]
          relations := [("area", { resource := "area", fields := ["id"] })] })] }

def nestedQuery : Query :=
  ((linkedCatalog "place").query nestedPlan (some "7")).toOption.getD ⟨"", []⟩

end Sample

/-- Cabins are tied to their area by the link table, those of a cabin to the cabin itself. -/
theorem query_correlated_cabins :
    (RestQuery.Sample.linkedCatalog "place").query Sample.nestedPlan (some "7") =
        .ok Sample.nestedQuery ∧
      ∃ (resource : Resource) (first : List (List Piece)) (pieces : List Piece),
        (RestQuery.Sample.linkedCatalog "place").resources.get? "area" = some resource ∧
        Sample.nestedQuery = .ofPieces (some "7") pieces ∧
        (∀ part ∈ first, Unrelated part) ∧
        Correlated (RestQuery.Sample.linkedCatalog "place") resource 0 Sample.nestedPlan
          (tableAs resource.schema resource.table "t0") first pieces := by
  have hquery : (RestQuery.Sample.linkedCatalog "place").query Sample.nestedPlan (some "7") =
      .ok Sample.nestedQuery := eq_ok_of_isOk _ (by decide +kernel)
  exact ⟨hquery, query_correlated hquery⟩

end RestQuery.Sql
