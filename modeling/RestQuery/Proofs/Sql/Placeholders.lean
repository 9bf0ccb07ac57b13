import Mathlib.Algebra.GroupWithZero.Nat
import RestQuery.Proofs.Plan.Levels
import RestQuery.Proofs.Plan.Tree
import RestQuery.Proofs.Sql.Scopes
import RestQuery.Proofs.Sql.Tokens

/-!
# Placeholders

Outside quoted names, the text of a query has a placeholder for each of its values, once
each, and no other ones.  With the literals of the values in their places the text is that
of the statement written with literals.  Relations give their names to tables unquoted, so
the names of relations must not look like a placeholder or open a quoted name.

Main statement: `Catalog.query_placeholders`.
-/

namespace RestQuery.Sql

/-! ## Fixed pieces -/

/-- Whether a piece is no use of the key and can stand behind any other piece. -/
def Piece.isFixed (piece : Piece) : Bool := piece.isPlain && piece.opens && piece ≠ .key

def Fixed (pieces : List Piece) : Prop := ∀ piece ∈ pieces, piece.isFixed = true

@[simp]
theorem fixed_nil : Fixed [] := by simp [Fixed]

@[simp]
theorem fixed_cons {piece : Piece} {rest : List Piece} :
    Fixed (piece :: rest) ↔ piece.isFixed = true ∧ Fixed rest := List.forall_mem_cons

@[simp]
theorem fixed_append {first second : List Piece} :
    Fixed (first ++ second) ↔ Fixed first ∧ Fixed second := List.forall_mem_append

@[simp]
theorem isFixed_name (s : String) : (Piece.name s).isFixed = true := rfl

@[simp]
theorem isFixed_value (v : Value) : (Piece.value v).isFixed = true := rfl

theorem isFixed_text (s : String) :
    (Piece.text s).isFixed = (isPlain s && s.toList.head?.any fun c => !c.isDigit) := by
  simp [Piece.isFixed, Piece.isPlain, Piece.opens]

theorem fixed_separated {between : String} {parts : List (List Piece)}
    (hbetween : (Piece.text between).isFixed = true) (hparts : ∀ part ∈ parts, Fixed part) :
    Fixed (separated between parts) :=
  forall_mem_separated hbetween hparts

/-- Fixed pieces can be read in any surroundings. -/
theorem Fixed.legible {pieces : List Piece} (hfixed : Fixed pieces) : Legible pieces := by
  have heach : ∀ piece ∈ pieces, piece.isPlain = true ∧ piece.opens = true := by
    intro piece hmem
    have hpiece := hfixed piece hmem
    simp only [Piece.isFixed, Bool.and_eq_true] at hpiece
    exact hpiece.1
  refine ⟨fun piece hmem => (heach piece hmem).1,
    fun piece hmem => (heach piece (List.mem_of_mem_head? hmem)).2, ?_⟩
  induction pieces with
  | nil => exact .nil
  | cons piece rest ih =>
      have hrest := fun other hmem => hfixed other (List.mem_cons_of_mem piece hmem)
      refine List.isChain_cons.2 ⟨fun next hnext _ => ?_, ih hrest fun other hmem =>
        heach other (List.mem_cons_of_mem piece hmem)⟩
      exact (heach next (List.mem_cons_of_mem piece (List.mem_of_mem_head? hnext))).2

theorem Fixed.count_key {pieces : List Piece} (hfixed : Fixed pieces) :
    pieces.count .key = 0 := by
  apply List.count_eq_zero.2
  intro hmem
  cases hfixed _ hmem

theorem isFixed_alias {table : Alias} (hplain : isPlain table.text = true) :
    (Piece.text table.text).isFixed = true := by
  rw [isFixed_text, hplain, table.head?_text]
  rfl

theorem isPlain_append (first second : String) :
    isPlain (first ++ second) = (isPlain first && isPlain second) := by
  simp [isPlain]

theorem isPlain_repr (number : Nat) : isPlain (Nat.repr number) = true := by
  rw [isPlain, Nat.toList_repr, List.all_eq_true]
  intro c hmem
  have hdigit := Nat.isDigit_of_mem_toDigits (by decide) (by decide) hmem
  by_cases hdollar : c = '$'
  · rw [hdollar] at hdigit
    cases hdigit
  · by_cases hquote : c = '"'
    · rw [hquote] at hdigit
      cases hdigit
    · simp [hdollar, hquote]

theorem isPlain_level (depth : Nat) : isPlain (Alias.level depth).text = true := by
  rw [Alias.text, isPlain_append, isPlain_repr]
  rfl

theorem isPlain_link {table : Alias} (hplain : isPlain table.text = true) :
    isPlain (Alias.link table).text = true := by
  rw [Alias.text, isPlain_append, hplain]
  rfl

theorem isPlain_join {table : Alias} {name : String} (hplain : isPlain table.text = true)
    (hname : isPlain name = true) : isPlain (Alias.join table name).text = true := by
  rw [Alias.text, isPlain_append, isPlain_append, hplain, hname]
  rfl

/-! ## Fixed conditions -/

theorem fixed_column {column : Column} (hplain : isPlain column.table.text = true) :
    Fixed column.pieces := by
  rw [Column.pieces, fixed_cons, fixed_cons, fixed_cons]
  exact ⟨isFixed_alias hplain, by decide, rfl, fixed_nil⟩

theorem fixed_table (schema table : String) : Fixed (tablePieces schema table) := by
  rw [tablePieces, fixed_cons, fixed_cons, fixed_cons]
  exact ⟨rfl, by decide, rfl, fixed_nil⟩

theorem fixed_operand (operands : List Operand) (place : Nat) :
    Fixed (operandPieces operands place) := by
  rw [operandPieces]
  cases operands[place]? with
  | none => exact fixed_cons.2 ⟨by decide, fixed_nil⟩
  | some operand => exact fixed_cons.2 ⟨rfl, fixed_nil⟩

theorem fixed_members (operands : List Operand) :
    Fixed (separated ", " (operands.map fun operand => [.value (.ofOperand operand)])) := by
  apply fixed_separated (by decide)
  intro part hmem
  obtain ⟨operand, -, rfl⟩ := List.mem_map.1 hmem
  exact fixed_cons.2 ⟨rfl, fixed_nil⟩

theorem fixed_check (check : Check) {column : List Piece} (hcolumn : Fixed column)
    (operands : List Operand) : Fixed (checkPieces check column operands) := by
  have hoperand := fixed_operand operands
  have hmembers := fixed_members operands
  cases check with
  | inSet | notInSet =>
      simp only [checkPieces]
      split <;> simp [hcolumn, hmembers, isFixed_text, isPlain]
  | _ => simp [checkPieces, hcolumn, hoperand, isFixed_text, isPlain]

theorem fixed_related {join : JoinKind} {source : Source} {conditions : List Condition}
    (hsource : Fixed source.pieces)
    (hconditions : ∀ condition ∈ conditions, Fixed condition.pieces) :
    Fixed (Condition.related join source conditions).pieces := by
  have hparts : Fixed (separated " AND " (conditions.map Condition.pieces)) := by
    apply fixed_separated (by decide)
    intro part hmem
    obtain ⟨condition, hcondition, rfl⟩ := List.mem_map.1 hmem
    exact hconditions condition hcondition
  rw [← pieceLists_eq_map] at hparts
  cases join <;> simp [Condition.pieces, hsource, hparts, isFixed_text, isPlain]

end Sql

/-- Whether the relation that a field belongs to, if it is one of a related resource, has a
name without characters that open a placeholder or a quoted name. -/
def FieldRef.isPlain (field : FieldRef) : Bool :=
  match field.scope with
  | .relation name => Sql.isPlain name
  | .resource | .link => true

namespace Clause

mutual

def fields : Clause → List FieldRef
  | ⟨_, field, _, parts⟩ => field.toList ++ fieldsAll parts

def fieldsAll : List Clause → List FieldRef
  | [] => []
  | part :: rest => part.fields ++ fieldsAll rest

end

end Clause

def Plan.fieldRefs (plan : Plan) : List FieldRef :=
  plan.filters.flatMap Clause.fields ++ plan.order.map OrderEntry.field

namespace Plan

theorem mem_fieldRefs_of_clause {plan : Plan} {clause : Clause} {field : FieldRef}
    (hclause : clause ∈ plan.filters) (hfield : field ∈ clause.fields) : field ∈ plan.fieldRefs :=
  List.mem_append_left _ (List.mem_flatMap.2 ⟨clause, hclause, hfield⟩)

theorem mem_fieldRefs_of_order {plan : Plan} {entry : OrderEntry} (hentry : entry ∈ plan.order) :
    entry.field ∈ plan.fieldRefs :=
  List.mem_append_right _ (List.mem_map_of_mem hentry)

end Plan

namespace Sql

variable {site : Site}

namespace Site

theorem isPlain_column (hsite : isPlain site.name.text = true) {field : FieldRef}
    (hfield : field.isPlain = true) : isPlain (site.column field).table.text = true := by
  rw [column]
  cases hscope : field.scope with
  | resource => exact hsite
  | link => exact isPlain_link hsite
  | relation name =>
      rw [FieldRef.isPlain, hscope] at hfield
      exact isPlain_join hsite hfield

theorem fixed_source (hsite : isPlain site.name.text = true) : Fixed site.source.pieces := by
  have hblank : (Piece.text " ").isFixed = true := by decide
  have hname : (Piece.text site.name.text).isFixed = true := isFixed_alias hsite
  rw [Source.pieces, fixed_append, fixed_append]
  refine ⟨⟨fixed_table _ _, fixed_cons.2 ⟨hblank, fixed_cons.2 ⟨hname, fixed_nil⟩⟩⟩, ?_⟩
  split
  next link hlink =>
    obtain ⟨hinner, houter⟩ := source_link hlink
    have hlinked : isPlain link.on.1.table.text = true := hinner ▸ isPlain_link hsite
    have hsource : isPlain link.on.2.table.text = true := houter ▸ hsite
    simp only [fixed_append, fixed_cons, fixed_nil, fixed_table, fixed_column hlinked,
      fixed_column hsource, isFixed_alias hlinked, hblank, and_true, true_and]
    decide
  next => exact fixed_nil

theorem fixed_correlation (hsite : isPlain site.name.text = true) {outer : Alias}
    (houter : isPlain outer.text = true) (relation : Relation) :
    Fixed (site.correlation outer relation).pieces := by
  have hequals : Fixed [.text " = "] := fixed_cons.2 ⟨by decide, fixed_nil⟩
  rw [correlation]
  split
  · rw [Condition.pieces, fixed_append, fixed_append]
    exact ⟨⟨fixed_column (isPlain_link hsite), hequals⟩, fixed_column houter⟩
  · rw [Condition.pieces, fixed_append, fixed_append]
    exact ⟨⟨fixed_column hsite, hequals⟩, fixed_column houter⟩

mutual

/-- The condition for a clause is fixed if the relations of its fields have plain names. -/
theorem fixed_condition (hsite : isPlain site.name.text = true) : ∀ clause : Clause,
    (∀ field ∈ clause.fields, field.isPlain = true) → Fixed (site.condition clause).pieces
  | ⟨.test check, field, operands, parts⟩, hfields => by
      rw [condition, Condition.pieces]
      apply fixed_check
      cases field with
      | none => exact fixed_nil
      | some field =>
          apply fixed_column
          apply isPlain_column hsite
          exact hfields field (by simp [Clause.fields])
  | ⟨.group connective, field, operands, parts⟩, hfields => by
      have hparts : Fixed (separated (connectiveText connective)
          ((site.conditionList parts).map Condition.pieces)) := by
        apply fixed_separated (by cases connective <;> decide)
        intro part hmem
        obtain ⟨condition, hcondition, rfl⟩ := List.mem_map.1 hmem
        refine fixed_conditionList hsite parts (fun field hfield => ?_) condition hcondition
        exact hfields field (by simp [Clause.fields, hfield])
      rw [← pieceLists_eq_map] at hparts
      simp [condition, Condition.pieces, hparts, isFixed_text, isPlain]

theorem fixed_conditionList (hsite : isPlain site.name.text = true) : ∀ clauses : List Clause,
    (∀ field ∈ Clause.fieldsAll clauses, field.isPlain = true) →
      ∀ condition ∈ site.conditionList clauses, Fixed condition.pieces
  | [], _, _, hmem => by cases hmem
  | clause :: rest, hfields, other, hmem => by
      rw [conditionList] at hmem
      rcases List.mem_cons.1 hmem with rfl | hmem
      · refine fixed_condition hsite clause fun field hfield => ?_
        exact hfields field (by simp [Clause.fieldsAll, hfield])
      · refine fixed_conditionList hsite rest (fun field hfield => ?_) other hmem
        exact hfields field (by simp [Clause.fieldsAll, hfield])

end

theorem fixed_output (hsite : isPlain site.name.text = true) (name : String) :
    Fixed (site.output name).pieces := by
  have hcolumn : Fixed (site.output name).column.pieces := by
    rw [output]
    split
    · exact fixed_column hsite
    · exact fixed_column (isPlain_link hsite)
  have hshown : Fixed [.text " AS ", .name (site.output name).name] :=
    fixed_cons.2 ⟨by decide, fixed_cons.2 ⟨rfl, fixed_nil⟩⟩
  rw [Output.pieces, fixed_append]
  refine ⟨?_, hshown⟩
  split
  · rw [fixed_append, fixed_append, fixed_cons, fixed_cons]
    exact ⟨⟨⟨by decide, fixed_nil⟩, hcolumn⟩, by decide, fixed_nil⟩
  · exact hcolumn

theorem fixed_order (hsite : isPlain site.name.text = true) {entries : List OrderEntry}
    (hfields : ∀ entry ∈ entries, entry.field.isPlain = true) :
    ∀ entry ∈ site.order entries, Fixed (orderPieces entry) := by
  intro entry hmem
  have hcolumn : isPlain entry.1.table.text = true := by
    rcases List.mem_append.1 hmem with hmem | hmem
    · obtain ⟨given, hgiven, rfl⟩ := List.mem_map.1 hmem
      exact isPlain_column hsite (hfields given hgiven)
    · split at hmem
      · cases hmem
      · rw [List.mem_singleton.1 hmem]
        exact isPlain_column hsite rfl
  rw [orderPieces, fixed_append, fixed_cons, fixed_cons]
  refine ⟨fixed_column hcolumn, by decide, ?_, fixed_nil⟩
  cases entry.2 <;> decide

end Site

/-! ## Legible selections -/

/-- Pieces that can be read can be put one behind the other. -/
theorem legible_append {first second : List Piece} (hfirst : Legible first)
    (hsecond : Legible second) : Legible (first ++ second) where
  plain := List.forall_mem_append.2 ⟨hfirst.plain, hsecond.plain⟩
  opens := by
    cases first with
    | nil => exact hsecond.opens
    | cons piece rest => exact hfirst.opens
  apart := hfirst.apart.append hsecond.apart fun _ _ next hnext _ => hsecond.opens next hnext

theorem legible_separated {between : String} {parts : List (List Piece)}
    (hbetween : (Piece.text between).isFixed = true) (hparts : ∀ part ∈ parts, Legible part) :
    Legible (separated between parts) := by
  induction parts with
  | nil => exact fixed_nil.legible
  | cons part rest ih =>
      have hpart := hparts part List.mem_cons_self
      have hrest := ih fun other hmem => hparts other (List.mem_cons_of_mem part hmem)
      cases rest with
      | nil => exact hpart
      | cons next others =>
          rw [separated_cons_cons]
          exact legible_append
            (legible_append hpart (fixed_cons.2 ⟨hbetween, fixed_nil⟩).legible) hrest

theorem count_separated (between : String) (parts : List (List Piece)) :
    (separated between parts).count .key = (parts.map (List.count .key)).sum := by
  induction parts with
  | nil => rfl
  | cons part rest ih =>
      cases rest with
      | nil => simp [separated]
      | cons next others =>
          rw [separated_cons_cons, List.count_append, List.count_append, ih, List.map_cons,
            List.sum_cons]
          rfl

theorem legible_count {word : String} (hword : (Piece.text word).isFixed = true)
    (count : Option UInt32) : Legible (countPieces word count) := by
  cases count with
  | none => exact fixed_nil.legible
  | some n =>
      have hfirst := (fixed_cons.2 ⟨hword, fixed_nil⟩).legible
      refine ⟨?_, hfirst.opens, ?_⟩
      · simp only [countPieces, List.forall_mem_cons]
        exact ⟨hfirst.plain _ List.mem_cons_self, isPlain_repr n.toNat, fun _ hmem => by cases hmem⟩
      · exact List.isChain_pair.2 fun hbound => by cases hbound

theorem count_count (word : String) (count : Option UInt32) :
    (countPieces word count).count .key = 0 := by
  cases count <;> rfl

/-- The parts of a selection other than its conditions and the selections of relations are
fixed. -/
structure Select.Plain (select : Select) : Prop where
  outputs : ∀ output ∈ select.outputs, Fixed output.pieces
  source : Fixed select.source.pieces
  order : ∀ entry ∈ select.order, Fixed (orderPieces entry)

theorem fixed_text {s : String} (hfixed : (Piece.text s).isFixed = true) : Fixed [.text s] :=
  fixed_cons.2 ⟨hfixed, fixed_nil⟩

theorem fixed_wrapping (kind : RelationKind) (name : String) :
    Fixed [.text (wrapping kind).1] ∧
      Fixed [.text (wrapping kind).2, .text " AS ", .name name] := by
  rw [fixed_cons, fixed_cons, fixed_cons, fixed_cons]
  cases kind with
  | toOne => exact ⟨⟨by decide, fixed_nil⟩, by decide, by decide, rfl, fixed_nil⟩
  | toMany => exact ⟨⟨by decide, fixed_nil⟩, by decide, by decide, rfl, fixed_nil⟩

theorem Select.Plain.legible {select : Select} (hplain : select.Plain)
    (hrelations : ∀ entry ∈ select.relations, Legible entry.2.2.pieces)
    (hconditions : ∀ condition ∈ select.conditions, Legible condition.pieces) :
    Legible select.pieces := by
  obtain ⟨outputs, relations, source, conditions, order, limit, offset⟩ := select
  have hshown : Legible (separated ", "
      (outputs.map Output.pieces ++ Select.relationPieces relations)) := by
    apply legible_separated (by decide)
    rw [List.forall_mem_append, List.forall_mem_map, relationPieces_eq_map, List.forall_mem_map]
    refine ⟨fun output hmem => (hplain.outputs output hmem).legible, fun entry hmem => ?_⟩
    obtain ⟨hbefore, hafter⟩ := fixed_wrapping entry.2.1 entry.1
    exact legible_append (legible_append hbefore.legible (hrelations entry hmem)) hafter.legible
  have hwhere : Legible (if conditions.isEmpty then []
      else [.text " WHERE "] ++ separated " AND " (conditions.map Condition.pieces)) := by
    split
    · exact fixed_nil.legible
    · refine legible_append (fixed_text (by decide)).legible (legible_separated (by decide) ?_)
      exact List.forall_mem_map.2 hconditions
  have horder : Fixed (separated ", " (order.map orderPieces)) :=
    fixed_separated (by decide) (List.forall_mem_map.2 hplain.order)
  rw [Select.pieces]
  refine legible_append (legible_append (legible_append (legible_append (legible_append
    (legible_append (legible_append (legible_append ?_ hshown) ?_) hplain.source.legible) hwhere)
    ?_) horder.legible) (legible_count (by decide) limit)) (legible_count (by decide) offset)
  · exact (fixed_text (by decide)).legible
  · exact (fixed_text (by decide)).legible
  · exact (fixed_text (by decide)).legible

/-- Where the key is used in a selection: in its relations and in its conditions. -/
theorem Select.Plain.count_key {select : Select} (hplain : select.Plain) :
    select.pieces.count .key =
      (select.relations.map fun entry => entry.2.2.pieces.count .key).sum +
        (select.conditions.map fun condition => condition.pieces.count .key).sum := by
  obtain ⟨outputs, relations, source, conditions, order, limit, offset⟩ := select
  have houtputs : (outputs.map (List.count .key ∘ Output.pieces)).sum = 0 := by
    rw [List.sum_eq_zero_iff_forall_eq_nat, List.forall_mem_map]
    exact fun output hmem => (hplain.outputs output hmem).count_key
  have hrelation : ∀ entry : String × RelationKind × Select,
      ([Piece.text (wrapping entry.2.1).1] ++ entry.2.2.pieces
          ++ [Piece.text (wrapping entry.2.1).2, .text " AS ", .name entry.1]).count .key =
        entry.2.2.pieces.count .key := by
    intro entry
    obtain ⟨hbefore, hafter⟩ := fixed_wrapping entry.2.1 entry.1
    rw [List.count_append, List.count_append, hbefore.count_key, hafter.count_key, Nat.zero_add,
      Nat.add_zero]
  have hshown : (separated ", " (outputs.map Output.pieces ++
      Select.relationPieces relations)).count .key =
        (relations.map fun entry => entry.2.2.pieces.count .key).sum := by
    rw [count_separated, List.map_append, List.sum_append, List.map_map, houtputs, Nat.zero_add,
      relationPieces_eq_map, List.map_map]
    exact congrArg List.sum (List.map_congr_left fun entry _ => hrelation entry)
  have hwhere : (if conditions.isEmpty then []
      else [Piece.text " WHERE "] ++
        separated " AND " (conditions.map Condition.pieces)).count .key =
        (conditions.map fun condition => condition.pieces.count .key).sum := by
    cases conditions with
    | nil => rfl
    | cons condition rest =>
        rw [List.isEmpty_cons, if_neg Bool.false_ne_true, List.count_append, count_separated,
          List.map_map, (fixed_text (by decide)).count_key, Nat.zero_add]
        rfl
  have horder : Fixed (separated ", " (order.map orderPieces)) :=
    fixed_separated (by decide) (List.forall_mem_map.2 hplain.order)
  have hsource : source.pieces.count .key = 0 := hplain.source.count_key
  have hwords : ∀ s, [Piece.text s].count .key = 0 := fun s => rfl
  rw [Select.pieces]
  simp only [List.count_append, hshown, hwhere, hsource, horder.count_key, count_count, hwords,
    Nat.zero_add, Nat.add_zero]

end Sql

/-- The names of relations have no character that opens a placeholder or a quoted name. -/
def Catalog.HasPlainRelations (catalog : Catalog) : Prop :=
  ∀ name resource, catalog.resources.get? name = some resource →
    ∀ relation found, resource.relations.get? relation = some found → Sql.isPlain relation = true

/-- The nodes of a plan filter and order by fields of relations with such names. -/
def Plan.HasPlainFields (plan : Plan) : Prop :=
  ∀ node ∈ plan.nodes, ∀ field ∈ node.fieldRefs, field.isPlain = true

namespace Sql

variable {catalog : Catalog} {site : Site} {plan : Plan}

/-- The condition for a join is fixed if its relation has a plain name. -/
theorem Site.fixed_joinCondition (hcatalog : catalog.HasPlainRelations) {resource : String}
    (hresource : catalog.resources.get? resource = some site.resource)
    (hsite : isPlain site.name.text = true) {filters : List Clause}
    (hfilters : ∀ clause ∈ filters, ∀ field ∈ clause.fields, field.isPlain = true)
    {name : String} {join : JoinKind} {condition : Condition}
    (hcondition : site.joinCondition catalog filters name join = .ok condition) :
    Fixed condition.pieces := by
  obtain ⟨relation, joined, hfollow, rfl⟩ := joinCondition_eq_ok_iff.1 hcondition
  obtain ⟨hrelation, target, -, hsome⟩ := follow_eq_ok_iff.1 hfollow
  have hname := hcatalog _ _ hresource _ _ hrelation
  have hjoined : isPlain joined.name.text = true := by
    rw [hsome]
    exact isPlain_join hsite hname
  apply fixed_related (fixed_source hjoined)
  rw [List.forall_mem_cons, conditionList_eq_map, List.forall_mem_map]
  refine ⟨fixed_correlation hjoined hsite relation, fun clause hclause => ?_⟩
  apply fixed_condition hsite
  cases join with
  | inner => exact hfilters clause (List.mem_of_mem_filter hclause)
  | leftExclusive => cases hclause

/-- The parts of a selection apart from conditions and relations are fixed at a plain name. -/
theorem Site.plain_select (hsite : isPlain site.name.text = true)
    (hfields : ∀ field ∈ plan.fieldRefs, field.isPlain = true) {depth : Nat}
    {first : List Condition} {select : Select}
    (hselect : site.select catalog depth first plan = .ok select) : select.Plain := by
  obtain ⟨below, related, -, -, rfl⟩ := select_eq_ok_iff.1 hselect
  refine ⟨?_, fixed_source hsite, fixed_order hsite fun entry hmem => ?_⟩
  · exact List.forall_mem_map.2 fun name _ => fixed_output hsite name
  · exact hfields _ (Plan.mem_fieldRefs_of_order hmem)

/-- The clauses of a plan and the conditions for its joins can be read without their values. -/
theorem Site.fixed_conditions (hcatalog : catalog.HasPlainRelations) {resource : String}
    (hresource : catalog.resources.get? resource = some site.resource)
    (hsite : isPlain site.name.text = true)
    (hfields : ∀ field ∈ plan.fieldRefs, field.isPlain = true) {related : List Condition}
    (hrelated : List.Forall₂ (fun entry condition =>
        site.joinCondition catalog plan.filters entry.1 entry.2 = .ok condition)
      (joins plan).entries related) :
    ∀ condition ∈ site.conditionList (plan.filters.filter (relationOf? · = none)) ++ related,
      Fixed condition.pieces := by
  have hclauses : ∀ clause ∈ plan.filters, ∀ field ∈ clause.fields, field.isPlain = true :=
    fun clause hclause field hfield =>
      hfields field (Plan.mem_fieldRefs_of_clause hclause hfield)
  rw [List.forall_mem_append, conditionList_eq_map, List.forall_mem_map]
  refine ⟨fun clause hclause => ?_, fun condition hcondition => ?_⟩
  · exact fixed_condition hsite clause (hclauses clause (List.mem_of_mem_filter hclause))
  · obtain ⟨entry, -, hjoined⟩ := exists_of_mem_right hrelated hcondition
    exact fixed_joinCondition hcatalog hresource hsite hclauses hjoined

theorem sum_count_key {α : Type} {parts : List α} {pieces : α → List Piece}
    (hnone : ∀ part ∈ parts, (pieces part).count .key = 0) :
    (parts.map fun part => (pieces part).count .key).sum = 0 := by
  rw [List.sum_eq_zero_iff_forall_eq_nat, List.forall_mem_map]
  exact hnone

/-- Only the conditions that a selection is given use the key. -/
theorem Site.legible_select (hcatalog : catalog.HasPlainRelations)
    (hplan : plan.HasPlainFields)
    (hresource : catalog.resources.get? plan.resource = some site.resource)
    (hsite : isPlain site.name.text = true) {depth : Nat} {first : List Condition}
    (hfirst : ∀ condition ∈ first, Legible condition.pieces) {select : Select}
    (hselect : site.select catalog depth first plan = .ok select) :
    Legible select.pieces ∧
      select.pieces.count .key =
        (first.map fun condition => condition.pieces.count .key).sum := by
  induction plan using Plan.induction generalizing site depth first select with
  | step plan ih =>
      have hfields := hplan plan (Plan.mem_nodes_iff.2 (.inl rfl))
      have hplain := plain_select hsite hfields hselect
      obtain ⟨below, related, hbelow, hrelated, rfl⟩ := select_eq_ok_iff.1 hselect
      have hrelations : ∀ result ∈ below,
          Legible result.2.2.pieces ∧ result.2.2.pieces.count .key = 0 := by
        intro result hmem
        obtain ⟨entry, hentry, relation, inner, hfollow, select, hselect, rfl⟩ :=
          exists_of_mem_right hbelow hmem
        obtain ⟨-, resource, hresource, rfl⟩ := follow_eq_ok_iff.1 hfollow
        let inner : Site := ⟨resource, .level (depth + 1), some relation⟩
        have hinner : isPlain inner.name.text = true := isPlain_level (depth + 1)
        have htied := fixed_correlation hinner hsite relation
        have hentryPlain : entry.2.HasPlainFields := fun node hnode =>
          hplan node (Plan.mem_nodes_iff.2 (.inr ⟨entry, hentry, hnode⟩))
        obtain ⟨hlegible, hcount⟩ := ih entry hentry hentryPlain hresource hinner
          (List.forall_mem_singleton.2 htied.legible) hselect
        refine ⟨hlegible, hcount.trans (sum_count_key ?_)⟩
        exact List.forall_mem_singleton.2 htied.count_key
      have hlater := fixed_conditions hcatalog hresource hsite hfields hrelated
      constructor
      · refine hplain.legible (fun result hmem => (hrelations result hmem).1) ?_
        rw [List.append_assoc, List.forall_mem_append]
        exact ⟨hfirst, fun condition hmem => (hlater condition hmem).legible⟩
      · have hbelowCount := sum_count_key fun result hmem => (hrelations result hmem).2
        have hlaterCount := sum_count_key fun condition hmem => (hlater condition hmem).count_key
        rw [hplain.count_key, hbelowCount, Nat.zero_add, List.append_assoc, List.map_append,
          List.sum_append, hlaterCount, Nat.add_zero]

end Sql

/-- Where the names of relations are plain, the query of a plan has a placeholder for each
of its values and no other one, and with literals in their places it is the statement that
is written with literals. -/
theorem Catalog.query_placeholders {catalog : Catalog} (hcatalog : catalog.HasPlainRelations)
    {plan : Plan} (hplan : plan.HasPlainFields) {key : Option String} {query : Sql.Query}
    (hquery : catalog.query plan key = .ok query) (literal : Sql.Value → String) :
    (Sql.placeholders query.text).Perm
        ((List.range' 1 query.params.length).map Sql.placeholder) ∧
      catalog.spelled literal plan key =
        .ok (Sql.filled literal query.params query.text) := by
  obtain ⟨resource, select, hresource, hselect, rfl⟩ := Sql.query_eq_ok_iff.1 hquery
  have hkey : Sql.Fixed (Sql.Column.pieces ⟨.level 0, resource.id⟩) :=
    Sql.fixed_column (Sql.isPlain_level 0)
  have hfirst : (∀ condition ∈ Sql.keyConditions resource key, Sql.Legible condition.pieces) ∧
      ((Sql.keyConditions resource key).map fun condition =>
        condition.pieces.count .key).sum = key.toList.length := by
    cases key with
    | none => exact ⟨nofun, rfl⟩
    | some key =>
        have hcompared : Sql.Legible [.text "::text = ", .key] :=
          ⟨by decide, by decide, List.isChain_pair.2 nofun⟩
        have hcount : (Sql.Condition.isKey ⟨.level 0, resource.id⟩).pieces.count .key = 1 := by
          rw [Sql.Condition.pieces, List.count_append, hkey.count_key]
          rfl
        refine ⟨List.forall_mem_singleton.2 (Sql.legible_append hkey.legible hcompared), ?_⟩
        exact hcount
  obtain ⟨hlegible, hcount⟩ := Sql.Site.legible_select hcatalog hplan hresource
    (Sql.isPlain_level 0) hfirst.1 hselect
  obtain ⟨hperm, hfilled⟩ := hlegible.query (hcount.trans hfirst.2) literal
  refine ⟨hperm, ?_⟩
  rw [hfilled, Sql.spell_select]
  refine bind_eq_ok_iff.2 ⟨select, bind_eq_ok_iff.2 ⟨resource, ?_, hselect⟩, rfl⟩
  exact Catalog.resource_eq_ok_iff.2 hresource

namespace Sample

def literal : Sql.Value → String
  | .text s => "'" ++ s ++ "'"
  | value => "CAST(NULL AS " ++ value.typeName ++ ")"

def areaQuery : Sql.Query := (catalog.query plan (some "7")).toOption.getD ⟨"", []⟩

end Sample

/-- The query for an area has one placeholder for its key and one for the name that its
cabins are filtered by. -/
theorem Catalog.query_placeholders_cabins :
    Sample.areaQuery.params.length = 2 ∧
      (Sql.placeholders Sample.areaQuery.text).Perm ["$1", "$2"] ∧
      Sample.catalog.spelled Sample.literal Sample.plan (some "7") =
        .ok (Sql.filled Sample.literal Sample.areaQuery.params Sample.areaQuery.text) := by
  have hfacts : (Sample.catalog.resources.entries.all fun entry =>
        entry.2.relations.entries.all fun relation => Sql.isPlain relation.1) = true ∧
      (Sample.plan.nodes.all fun node => node.fieldRefs.all FieldRef.isPlain) = true ∧
      (Sample.catalog.query Sample.plan (some "7")).isOk = true ∧
      Sample.areaQuery.params.length = 2 ∧
      (List.range' 1 2).map Sql.placeholder = ["$1", "$2"] := by decide +kernel
  obtain ⟨hrelations, hfields, hquery, hlength, hplaces⟩ := hfacts
  have hcatalog : Sample.catalog.HasPlainRelations := by
    intro name resource hresource relation found hfound
    have hentries := List.all_eq_true.1 hrelations _ (Table.get?_eq_some_iff.1 hresource)
    exact List.all_eq_true.1 hentries _ (Table.get?_eq_some_iff.1 hfound)
  have hplan : Sample.plan.HasPlainFields := fun node hnode =>
    List.all_eq_true.1 (List.all_eq_true.1 hfields node hnode)
  have hok : Sample.catalog.query Sample.plan (some "7") = .ok Sample.areaQuery := by
    rw [Sample.areaQuery]
    exact eq_ok_of_isOk _ hquery
  have hplaceholders := Catalog.query_placeholders hcatalog hplan hok Sample.literal
  rw [hlength, hplaces] at hplaceholders
  exact ⟨hlength, hplaceholders⟩

end RestQuery
