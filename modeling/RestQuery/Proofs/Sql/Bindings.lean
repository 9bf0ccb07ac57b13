import RestQuery.Proofs.Answer
import RestQuery.Proofs.Sql.Conditions
import Mathlib.Data.List.Perm.Basic

/-!
# The values that a query binds

A query binds the key that it is given and, once each, the operands of the clauses of
all nodes of its plan.  Clauses about a relation are left out of the query where there
must be no row of the relation.

Main statement: `Document.query_bindings`.
-/

namespace RestQuery

open Sql

/-! ## What clauses bind -/

/-- The value that an operand of a test is bound as.  Texts that a pattern is made of are
bound as the pattern. -/
def Check.binding : Check → Operand → Value
  | .likeContains, .text s => .text (pattern true true s)
  | .likePrefix, .text s => .text (pattern false true s)
  | .likeSuffix, .text s => .text (pattern true false s)
  | .notLike, .text s => .text (pattern false false s)
  | _, operand => .ofOperand operand

def ClauseKind.binding : ClauseKind → Operand → Value
  | .test check => check.binding
  | .group _ => .ofOperand

namespace Clause

mutual

def bindings : Clause → List Value
  | ⟨kind, _, operands, parts⟩ => operands.map kind.binding ++ bindingsAll parts

def bindingsAll : List Clause → List Value
  | [] => []
  | part :: rest => part.bindings ++ bindingsAll rest

end

theorem bindingsAll_eq_flatMap (parts : List Clause) :
    bindingsAll parts = parts.flatMap bindings := by
  induction parts with
  | nil => rfl
  | cons part rest ih => rw [bindingsAll, ih, List.flatMap_cons]

theorem bindings_onField (check : Check) (field : FieldRef) (operands : List Operand) :
    (onField check field operands).bindings = operands.map check.binding :=
  List.append_nil _

theorem bindings_anyOf (parts : List Clause) :
    (anyOf parts).bindings = parts.flatMap bindings :=
  bindingsAll_eq_flatMap parts

end Clause

namespace Plan

def bindings (plan : Plan) : List Value := plan.filters.flatMap Clause.bindings

/-- The values for the operands of the clauses of a node that its query takes up. -/
def kept (plan : Plan) : List Value :=
  (plan.filters.filter fun clause => !plan.excludes clause).flatMap Clause.bindings

/-- The values for the operands of the other clauses. -/
def dropped (plan : Plan) : List Value :=
  (plan.filters.filter plan.excludes).flatMap Clause.bindings

/-- The operands of a node are those that the query takes up and those that it drops. -/
theorem kept_append_dropped (plan : Plan) :
    (plan.kept ++ plan.dropped).Perm plan.bindings := by
  have hsplit := List.filter_append_perm plan.excludes plan.filters
  have hvalues := hsplit.flatMap_right Clause.bindings
  rw [List.flatMap_append] at hvalues
  exact List.perm_append_comm.trans hvalues

theorem kept_append_dropped_nodes (plan : Plan) :
    (plan.nodes.flatMap kept ++ plan.nodes.flatMap dropped).Perm
      (plan.nodes.flatMap bindings) :=
  (List.flatMap_append_perm _ _ _).trans
    (List.Perm.flatMap_left _ fun node _ => node.kept_append_dropped)

end Plan

namespace Sql

/-! ## Values of pieces -/

theorem values_column (column : Column) : values column.pieces = [] := rfl

theorem values_source (source : Source) : values source.pieces = [] := by
  unfold Source.pieces
  cases source.link with
  | none => rfl
  | some link => rfl

theorem values_correlation (site : Site) (outer : Alias) (relation : Relation) :
    values (site.correlation outer relation).pieces = [] := by
  unfold Site.correlation
  split
  · rfl
  · rfl

theorem values_memberPieces (operands : List Operand) :
    values (separated ", " (operands.map fun operand => [.value (.ofOperand operand)])) =
      operands.map Value.ofOperand := by
  rw [values_separated]
  induction operands with
  | nil => rfl
  | cons operand rest ih =>
      rw [List.map_cons, List.flatMap_cons, ih]
      rfl

/-- A test with as many operands as it takes binds each of them once. -/
theorem values_checkPieces {check : Check} {column : List Piece} {operands : List Operand}
    (hcolumn : values column = []) (hcount : check.takes operands.length) :
    values (checkPieces check column operands) = operands.map check.binding := by
  cases check with
  | isNull | isNotNull | nonEmpty | empty =>
      have hnone : operands = [] := by simpa [Check.takes] using hcount
      rw [hnone]
      simp [checkPieces, values, hcolumn]
  | inSet | notInSet =>
      have hsome : operands ≠ [] := by
        simpa [Check.takes, List.length_pos_iff] using hcount
      simp [checkPieces, values, hcolumn, hsome, values_memberPieces]
      intro operand _
      cases operand <;> rfl
  | between =>
      have htwo : operands.length = 2 := by simpa [Check.takes] using hcount
      obtain ⟨first, second, rfl⟩ := List.length_eq_two.1 htwo
      simp [checkPieces, operandPieces, values, hcolumn, Check.binding]
  | _ =>
      have hone : operands.length = 1 := by simpa [Check.takes] using hcount
      obtain ⟨operand, rfl⟩ := List.length_eq_one_iff.1 hone
      cases operand <;>
        simp [checkPieces, operandPieces, patternValue, values, hcolumn, Check.binding,
          Value.ofOperand]

theorem values_pieceLists (between : String) (conditions : List Condition) :
    values (separated between (Condition.pieceLists conditions)) =
      conditions.flatMap fun condition => values condition.pieces := by
  rw [values_separated]
  induction conditions with
  | nil => rfl
  | cons condition rest ih => rw [Condition.pieceLists, List.flatMap_cons, ih, List.flatMap_cons]

theorem values_related (join : JoinKind) (source : Source) (conditions : List Condition) :
    values (Condition.related join source conditions).pieces =
      conditions.flatMap fun condition => values condition.pieces := by
  simp [Condition.pieces, values, values_source, values_pieceLists]

/-! ## Values of conditions -/

/-- The condition for a clause binds what the clause says, at every site. -/
def Binds (clause : Clause) : Prop :=
  ∀ site : Site, values (site.condition clause).pieces = clause.bindings

theorem binds_onField {check : Check} {field : FieldRef} {operands : List Operand}
    (hcount : check.takes operands.length) : Binds (.onField check field operands) := by
  intro site
  rw [Clause.bindings_onField]
  exact values_checkPieces (values_column (site.column field)) hcount

theorem values_conditionList (site : Site) {clauses : List Clause}
    (hbinds : ∀ clause ∈ clauses, Binds clause) :
    ((site.conditionList clauses).flatMap fun condition => values condition.pieces) =
      clauses.flatMap Clause.bindings := by
  induction clauses with
  | nil => rfl
  | cons clause rest ih =>
      rw [Site.conditionList, List.flatMap_cons, List.flatMap_cons,
        hbinds clause List.mem_cons_self site,
        ih fun other hmem => hbinds other (List.mem_cons_of_mem clause hmem)]

theorem binds_anyOf {parts : List Clause} (hparts : ∀ part ∈ parts, Binds part) :
    Binds (.anyOf parts) := by
  intro site
  rw [Clause.bindings_anyOf]
  simp only [Clause.anyOf, Site.condition, Condition.pieces]
  rw [values_append, values_append, values_pieceLists, values_conditionList site hparts]
  exact List.append_nil _

theorem binds_of_applies {type : FieldType} {field : FieldRef} {operator : Operator}
    {clause : Clause} (happlies : clause.Applies type field operator) : Binds clause := by
  induction happlies with
  | test _ hcount _ => exact binds_onField hcount
  | anyOf _ _ ih => exact binds_anyOf ih

/-- The condition for a permitted clause binds all of its operands. -/
theorem binds_of_permits {catalog : Catalog} {referrer : Referrer} {resource : Resource}
    {capability : Capability} {clause : Clause}
    (hpermits : capability.Permits catalog referrer resource clause) : Binds clause := by
  cases hpermits with
  | search => exact binds_onField rfl
  | absence => exact binds_onField rfl
  | field _ _ _ happlies => exact binds_of_applies happlies

/-! ## Values of selections -/

theorem values_outputs (outputs : List Output) :
    (outputs.map Output.pieces).flatMap values = [] := by
  rw [List.flatMap_map, List.flatMap_eq_nil_iff]
  intro output _
  unfold Output.pieces
  split
  · rfl
  · rfl

theorem values_order (order : List (Column × Direction)) :
    (order.map orderPieces).flatMap values = [] := by
  rw [List.flatMap_map, List.flatMap_eq_nil_iff]
  intro key _
  rfl

theorem values_count (word : String) (count : Option UInt32) :
    values (countPieces word count) = [] := by
  cases count <;> rfl

theorem values_relationPieces (below : List (String × RelationKind × Select)) :
    (Select.relationPieces below).flatMap values =
      below.flatMap fun entry => values entry.2.2.pieces := by
  induction below with
  | nil => rfl
  | cons entry rest ih =>
      rw [Select.relationPieces, List.flatMap_cons, List.flatMap_cons, ih]
      simp [values]

/-- A selection binds what its relations and its conditions bind. -/
theorem values_select (select : Select) :
    values select.pieces =
      (select.relations.flatMap fun entry => values entry.2.2.pieces) ++
        select.conditions.flatMap fun condition => values condition.pieces := by
  obtain ⟨outputs, relations, source, conditions, order, limit, offset⟩ := select
  have hconditions : values (if conditions.isEmpty then []
        else [.text " WHERE "] ++ separated " AND " (conditions.map Condition.pieces)) =
      conditions.flatMap fun condition => values condition.pieces := by
    cases conditions with
    | nil => rfl
    | cons condition rest =>
        rw [List.isEmpty_cons, if_neg Bool.false_ne_true, values_append, values_separated,
          List.flatMap_map]
        rfl
  simp only [Select.pieces, values_append, values_separated, List.flatMap_append, values_outputs,
    values_relationPieces, values_source, values_order, values_count, hconditions]
  simp [values]

/-! ## Clauses by relation -/

/-- Whether one of several joins takes a clause up. -/
def takenUp (entries : List (String × JoinKind)) (clause : Clause) : Bool :=
  entries.any fun entry => entry.2 = .inner ∧ Site.relationOf? clause = some entry.1

theorem takenUp_cons (name : String) (join : JoinKind) (rest : List (String × JoinKind))
    (clause : Clause) :
    takenUp ((name, join) :: rest) clause =
      (decide (join = .inner ∧ Site.relationOf? clause = some name) || takenUp rest clause) :=
  List.any_cons

theorem takenUp_eq_false {entries : List (String × JoinKind)} {clause : Clause} {name : String}
    (hnew : name ∉ entries.map Prod.fst) (hname : Site.relationOf? clause = some name) :
    takenUp entries clause = false := by
  rw [takenUp, List.any_eq_false]
  intro entry hentry htaken
  obtain ⟨-, hother⟩ := decide_eq_true_eq.mp htaken
  rw [hname, Option.some.injEq] at hother
  exact hnew (List.mem_map.2 ⟨entry, hentry, hother.symm⟩)

/-- Each clause that is taken up is taken up by one join. -/
theorem filter_perm_joinClauses (filters : List Clause) {entries : List (String × JoinKind)}
    (hnodup : (entries.map Prod.fst).Nodup) :
    (filters.filter (takenUp entries)).Perm
      (entries.flatMap fun entry => Site.joinClauses filters entry.1 entry.2) := by
  induction entries with
  | nil => simp [takenUp]
  | cons entry rest ih =>
      obtain ⟨name, join⟩ := entry
      obtain ⟨hnew, hrest⟩ := List.nodup_cons.1 hnodup
      rw [List.flatMap_cons]
      cases join with
      | leftExclusive =>
          have hskip : takenUp ((name, .leftExclusive) :: rest) = takenUp rest := by
            funext clause
            simp [takenUp_cons]
          rw [hskip]
          exact ih hrest
      | inner =>
          let about : Clause → Bool := fun clause => Site.relationOf? clause = some name
          let others := filters.filter (takenUp ((name, .inner) :: rest))
          have hfirst : others.filter about = filters.filter about := by
            rw [List.filter_filter]
            congr 1
            funext clause
            by_cases hname : Site.relationOf? clause = some name <;>
              simp [about, takenUp_cons, hname]
          have hlater : others.filter (fun clause => !about clause) =
              filters.filter (takenUp rest) := by
            rw [List.filter_filter]
            congr 1
            funext clause
            by_cases hname : Site.relationOf? clause = some name
            · simp [about, hname, takenUp_eq_false hnew hname]
            · simp [about, takenUp_cons, hname]
          have hsplit := List.filter_append_perm about others
          rw [hfirst, hlater] at hsplit
          exact hsplit.symm.trans ((List.Perm.refl _).append (ih hrest))

/-- A clause about a relation is taken up exactly if there has to be a row of the relation. -/
theorem takenUp_entries {joins : Table JoinKind} {clause : Clause} {name : String}
    (hrelation : Site.relationOf? clause = some name) :
    takenUp joins.entries clause = decide (joins.get? name = some .inner) := by
  rw [takenUp, Bool.eq_iff_iff, List.any_eq_true, decide_eq_true_eq, Table.get?_eq_some_iff]
  constructor
  · rintro ⟨⟨other, join⟩, hentry, htaken⟩
    obtain ⟨rfl, hother⟩ := decide_eq_true_eq.mp htaken
    rw [hrelation, Option.some.injEq] at hother
    rw [hother]
    exact hentry
  · intro hentry
    exact ⟨_, hentry, decide_eq_true_eq.mpr ⟨rfl, hrelation⟩⟩

/-- The clauses that a query takes up are those about no relation and, relation by
relation, those that the joins take up. -/
theorem kept_perm (plan : Plan) :
    (plan.filters.filter fun clause => !plan.excludes clause).Perm
      (plan.filters.filter (Site.relationOf? · = none) ++
        (Site.joins plan).entries.flatMap fun entry =>
          Site.joinClauses plan.filters entry.1 entry.2) := by
  let kept := plan.filters.filter fun clause => !plan.excludes clause
  let plain : Clause → Bool := fun clause => Site.relationOf? clause = none
  have hfirst : kept.filter plain = plan.filters.filter plain := by
    rw [List.filter_filter]
    apply List.filter_congr
    intro clause _
    cases hrelation : Site.relationOf? clause <;> simp [plain, excludes_eq, hrelation]
  have hlater : kept.filter (fun clause => !plain clause) =
      plan.filters.filter (takenUp (Site.joins plan).entries) := by
    rw [List.filter_filter]
    apply List.filter_congr
    intro clause hclause
    cases hrelation : Site.relationOf? clause with
    | none => simp [plain, takenUp, hrelation]
    | some name =>
        have hmem : name ∈ plan.filters.filterMap Site.relationOf? :=
          List.mem_filterMap.2 ⟨clause, hclause, hrelation⟩
        have hjoin : (Site.joins plan).get? name =
            (plan.joins.get? name).or (some .inner) := by
          rw [Site.get?_joins, if_pos hmem]
        rw [takenUp_entries hrelation, hjoin, excludes_eq, hrelation, Option.any_some]
        rcases plan.joins.get? name with _ | _ | _ <;> simp [plain, hrelation]
  have hsplit := List.filter_append_perm plain kept
  rw [hfirst, hlater] at hsplit
  exact hsplit.symm.trans
    ((List.Perm.refl _).append
      (filter_perm_joinClauses plan.filters (Site.joins plan).keys_nodup))

/-! ## Values of plans -/

variable {catalog : Catalog} {site : Site}

/-- The condition for a join binds the operands of the clauses that it takes up. -/
theorem values_joinCondition {filters : List Clause} {name : String} {join : JoinKind}
    {condition : Condition} (hbinds : ∀ clause ∈ filters, Binds clause)
    (hcondition : site.joinCondition catalog filters name join = .ok condition) :
    values condition.pieces = (Site.joinClauses filters name join).flatMap Clause.bindings := by
  obtain ⟨relation, joined, -, rfl⟩ := Site.joinCondition_eq_ok_iff.1 hcondition
  have htaken : ∀ clause ∈ Site.joinClauses filters name join, Binds clause := by
    intro clause hmem
    cases join with
    | inner => exact hbinds clause (List.mem_of_mem_filter hmem)
    | leftExclusive => cases hmem
  rw [values_related, List.flatMap_cons, values_correlation, values_conditionList site htaken]
  rfl

/-- The conditions of a selection bind what the query takes up of the plan's clauses. -/
theorem values_conditions_perm {plan : Plan} {first related : List Condition}
    (hbinds : ∀ clause ∈ plan.filters, Binds clause)
    (hfirst : ∀ condition ∈ first, values condition.pieces = [])
    (hrelated : List.Forall₂ (fun entry condition =>
        site.joinCondition catalog plan.filters entry.1 entry.2 = .ok condition)
      (Site.joins plan).entries related) :
    ((first ++ site.conditionList (plan.filters.filter (Site.relationOf? · = none)) ++
        related).flatMap fun condition => values condition.pieces).Perm plan.kept := by
  have hplain : ∀ clause ∈ plan.filters.filter (Site.relationOf? · = none), Binds clause :=
    fun clause hmem => hbinds clause (List.mem_of_mem_filter hmem)
  have hjoined : ((Site.joins plan).entries.flatMap fun entry =>
      (Site.joinClauses plan.filters entry.1 entry.2).flatMap Clause.bindings).Perm
        (related.flatMap fun condition => values condition.pieces) := by
    apply flatMap_perm_of_forall₂
    exact hrelated.imp fun entry condition hcondition =>
      .of_eq (values_joinCondition hbinds hcondition).symm
  have hkept := (kept_perm plan).flatMap_right Clause.bindings
  rw [List.flatMap_append, List.flatMap_append, List.flatMap_eq_nil_iff.2 hfirst,
    List.nil_append, values_conditionList site hplain]
  calc
    List.Perm _ ((plan.filters.filter (Site.relationOf? · = none)).flatMap Clause.bindings ++
        (Site.joins plan).entries.flatMap fun entry =>
          (Site.joinClauses plan.filters entry.1 entry.2).flatMap Clause.bindings) :=
      (List.Perm.refl _).append hjoined.symm
    _ = (plan.filters.filter (Site.relationOf? · = none) ++
        (Site.joins plan).entries.flatMap fun entry =>
          Site.joinClauses plan.filters entry.1 entry.2).flatMap Clause.bindings := by
      rw [List.flatMap_append, List.flatMap_assoc]
    List.Perm _ plan.kept := hkept.symm

/-- The selection for the plan of a level binds what it takes up of the clauses of all
nodes of the plan. -/
theorem values_select_perm (hsound : catalog.Sound) {plan : Plan} {level : Level}
    (hgives : level.Gives catalog plan) (hheld : level.Held catalog) {depth : Nat}
    {first : List Condition} (hfirst : ∀ condition ∈ first, values condition.pieces = [])
    {select : Select} (hselect : site.select catalog depth first plan = .ok select) :
    (values select.pieces).Perm (plan.nodes.flatMap Plan.kept) := by
  induction plan using Plan.induction generalizing level site depth first select with
  | step plan ih =>
      obtain ⟨below, related, hbelow, hrelated, rfl⟩ := Site.select_eq_ok_iff.1 hselect
      obtain ⟨declared, hauthorized⟩ := hgives.exists_authorized hheld hsound
      have hbinds : ∀ clause ∈ plan.filters, Binds clause := fun clause hmem =>
        binds_of_permits (hauthorized.filters clause hmem)
      have hrelations : (plan.relations.flatMap fun entry =>
          entry.2.nodes.flatMap Plan.kept).Perm
            (below.flatMap fun entry => values entry.2.2.pieces) := by
        apply flatMap_perm_of_forall₂
        refine ((List.forall₂_and_left _ _).2 ⟨fun _ hentry => hentry, hbelow⟩).imp ?_
        rintro entry _ ⟨hentry, relation, inner, -, other, hother, rfl⟩
        obtain ⟨_, child, hrelation, hchild, hsub⟩ := hgives.relation hentry
        have hcorrelated : ∀ condition ∈ [inner.correlation site.name relation],
            values condition.pieces = [] := by
          intro condition hmem
          rw [List.mem_singleton.1 hmem]
          exact values_correlation inner site.name relation
        exact (ih entry hentry hsub (hheld.of_child hsound hrelation hchild) hcorrelated
          hother).symm
      have hconditions := values_conditions_perm hbinds hfirst hrelated
      rw [values_select, Plan.nodes_eq, List.flatMap_cons, Plan.nodesBelow_eq_flatMap,
        List.flatMap_assoc]
      exact List.perm_append_comm.trans (hconditions.append hrelations.symm)

end Sql

/-- The query for a plan binds its key and the operands of the clauses that it takes up,
and has a condition for each of these.  It binds all operands of the plan unless a clause
with operands is about a relation of which there must be no row. -/
theorem Document.query_bindings {document : Document} {catalog : Catalog}
    (hresolve : document.resolve = .ok catalog) {name : String} {target : Target}
    {params : Params} {plan : Plan} (hplan : catalog.plan name target params = .ok plan)
    (key : Option String) :
    ∃ pieces, catalog.query plan key = .ok (.ofPieces key pieces) ∧
      (∀ node ∈ plan.nodes, ∀ clause ∈ node.filters, node.excludes clause = false →
        ∃ site : Site, catalog.resources.get? node.resource = some site.resource ∧
          (site.condition clause).pieces <:+: pieces) ∧
      (Query.ofPieces key pieces).params.Perm
        ((key.map Value.text).toList ++ plan.nodes.flatMap Plan.kept) ∧
      ((Query.ofPieces key pieces).params.Perm
          ((key.map Value.text).toList ++ plan.nodes.flatMap Plan.bindings) ↔
        ∀ node ∈ plan.nodes, ∀ clause ∈ node.filters,
          node.excludes clause = true → clause.bindings = []) := by
  have hsound := sound_of_resolve hresolve
  obtain ⟨query, hquery⟩ := hsound.exists_query hplan key
  obtain ⟨level, hroot, hwithin⟩ := bind_eq_ok_iff.1 hplan
  obtain ⟨resource, select, hresource, hselect, heq⟩ := query_eq_ok_iff.1 hquery
  have hfirst : ∀ condition ∈ keyConditions resource key, values condition.pieces = [] := by
    intro condition hmem
    unfold keyConditions at hmem
    split at hmem
    · rw [List.mem_singleton.1 hmem]
      rfl
    · cases hmem
  have hkept : (values select.pieces).Perm (plan.nodes.flatMap Plan.kept) :=
    values_select_perm hsound (Level.gives_of_planWithin hwithin)
      (Level.held_of_root hsound hroot) hfirst hselect
  have hparams : (Query.ofPieces key select.pieces).params.Perm
      ((key.map Value.text).toList ++ plan.nodes.flatMap Plan.kept) :=
    (List.Perm.refl _).append hkept
  refine ⟨select.pieces, hquery.trans (congrArg _ heq), ?_, hparams, ?_⟩
  · intro node hnode clause hclause hexcludes
    exact infix_of_mem_nodes hresource hselect hnode hclause hexcludes
  have hdropped : plan.nodes.flatMap Plan.dropped = [] ↔
      ∀ node ∈ plan.nodes, ∀ clause ∈ node.filters,
        node.excludes clause = true → clause.bindings = [] := by
    simp only [Plan.dropped, List.flatMap_eq_nil_iff, List.mem_filter, and_imp]
  have hall := plan.kept_append_dropped_nodes
  rw [← hdropped]
  constructor
  · intro hperm
    have hlength := (hparams.symm.trans hperm).length_eq
    have htotal := hall.length_eq
    rw [List.length_append, List.length_append] at hlength
    rw [List.length_append] at htotal
    exact List.length_eq_zero_iff.1 (by omega)
  · intro hnone
    rw [hnone, List.append_nil] at hall
    exact hparams.trans ((List.Perm.refl _).append hall)

/-- The cabins of an area with a certain name, the area being given by its key. -/
theorem query_bindings_cabins :
    ∃ pieces, Sample.catalog.query Sample.plan (some "7") = .ok (.ofPieces (some "7") pieces) ∧
      (Query.ofPieces (some "7") pieces).params.Perm [.text "7", .text "%lake%"] := by
  obtain ⟨pieces, hquery, -, -, hall⟩ :=
    Document.query_bindings Sample.resolve_document Sample.plan_request (some "7")
  have hfacts : Sample.plan.nodes.all (fun node => node.filters.all fun clause =>
        !node.excludes clause) = true ∧
      ((some "7").map Value.text).toList ++ Sample.plan.nodes.flatMap Plan.bindings =
        [.text "7", .text "%lake%"] := by decide +kernel
  obtain ⟨hkept, hvalues⟩ := hfacts
  rw [hvalues] at hall
  refine ⟨pieces, hquery, hall.2 ?_⟩
  intro node hnode clause hclause hexcludes
  have hnot := List.all_eq_true.1 (List.all_eq_true.1 hkept node hnode) clause hclause
  rw [hexcludes] at hnot
  cases hnot

namespace Sample

/-- The areas without cabins that have a cabin of a certain name. -/
def absence : Params :=
  ⟨.ofList
    [("cabins", .string "!"), ("cabins.name", .string "~lake"), ("fields", .string "name")]⟩

def absencePlan : Plan := (catalog.plan "area" .list absence).toOption.getD default

def absenceQuery : Query := (catalog.query absencePlan none).toOption.getD ⟨"", []⟩

end Sample

theorem query_bindings_absence :
    Sample.catalog.plan "area" .list Sample.absence = .ok Sample.absencePlan ∧
      Sample.absencePlan.errors = [] ∧
      Sample.catalog.query Sample.absencePlan none = .ok Sample.absenceQuery ∧
      ¬Sample.absenceQuery.params.Perm
        (Sample.absencePlan.nodes.flatMap Plan.bindings) := by
  have hfacts : (Sample.catalog.plan "area" .list Sample.absence).isOk = true ∧
      Sample.absencePlan.errors = [] ∧
      (Sample.catalog.query Sample.absencePlan none).isOk = true ∧
      Sample.absenceQuery.params.length = 0 ∧
      (Sample.absencePlan.nodes.flatMap Plan.bindings).length = 1 := by decide +kernel
  obtain ⟨hplan, herrors, hquery, hcount, hbindings⟩ := hfacts
  refine ⟨eq_ok_of_isOk _ hplan, herrors, eq_ok_of_isOk _ hquery, fun hperm => ?_⟩
  have hlength := hperm.length_eq
  omega

end RestQuery
