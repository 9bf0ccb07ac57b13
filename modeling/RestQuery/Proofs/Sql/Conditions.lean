import RestQuery.Proofs.Plan.Tree
import RestQuery.Proofs.Sql.Pieces
import RestQuery.Proofs.Sql.Selections

/-!
# The conditions of clauses

The selection for a plan contains the condition of each clause of the plan, unless the
clause is about a relation of which there must be no row.

Main statement: `infix_of_mem_nodes`.
-/

namespace RestQuery

open Sql

/-- Whether a clause is about a relation of which there must be no row. -/
def Plan.excludes (plan : Plan) (clause : Clause) : Bool :=
  match clause.scope? with
  | some (.relation name) => plan.joins.get? name = some .leftExclusive
  | _ => false

namespace Sql

theorem excludes_eq (plan : Plan) (clause : Clause) :
    plan.excludes clause =
      (Site.relationOf? clause).any fun name => plan.joins.get? name = some .leftExclusive := by
  unfold Plan.excludes Site.relationOf?
  split <;> simp_all

/-! ## Parts of a selection -/

/-- Each condition on related rows stands within the condition on there being some. -/
theorem Condition.infix_related {condition : Condition} {conditions : List Condition}
    (join : JoinKind) (source : Source) (hmem : condition ∈ conditions) :
    condition.pieces <:+: (Condition.related join source conditions).pieces := by
  have hpart : condition.pieces ∈ Condition.pieceLists conditions := by
    rw [pieceLists_eq_map]
    exact List.mem_map_of_mem hmem
  simp only [Condition.pieces]
  apply List.infix_append_of_infix_left
  exact List.infix_append_of_infix_right (infix_separated " AND " hpart)

/-- Each condition of a selection stands in its text. -/
theorem Select.infix_condition {select : Select} {condition : Condition}
    (hmem : condition ∈ select.conditions) : condition.pieces <:+: select.pieces := by
  obtain ⟨outputs, relations, source, conditions, order, limit, offset⟩ := select
  have hpart : condition.pieces ∈ conditions.map Condition.pieces := List.mem_map_of_mem hmem
  have hsome : conditions.isEmpty = false := by
    cases conditions with
    | nil => cases hmem
    | cons => rfl
  simp only [Select.pieces, hsome, List.append_assoc]
  iterate 4 apply List.infix_append_of_infix_right
  apply List.infix_append_of_infix_left
  exact List.infix_append_of_infix_right (infix_separated " AND " hpart)

theorem infix_of_mem_relationPieces {relations : List (String × RelationKind × Select)}
    {entry : String × RelationKind × Select} (hmem : entry ∈ relations) :
    ∃ part ∈ Select.relationPieces relations, entry.2.2.pieces <:+: part := by
  induction relations with
  | nil => cases hmem
  | cons first rest ih =>
      rcases List.mem_cons.1 hmem with rfl | hmem
      · refine ⟨_, List.mem_cons_self, ?_⟩
        apply List.infix_append_of_infix_left
        exact List.infix_append_of_infix_right (List.infix_refl _)
      · obtain ⟨part, hpart, hinfix⟩ := ih hmem
        exact ⟨part, List.mem_cons_of_mem _ hpart, hinfix⟩

theorem Select.infix_relation {select : Select} {entry : String × RelationKind × Select}
    (hmem : entry ∈ select.relations) : entry.2.2.pieces <:+: select.pieces := by
  obtain ⟨outputs, relations, source, conditions, order, limit, offset⟩ := select
  obtain ⟨part, hpart, hinfix⟩ := infix_of_mem_relationPieces hmem
  simp only [Select.pieces, List.append_assoc]
  apply List.infix_append_of_infix_right
  apply List.infix_append_of_infix_left
  exact hinfix.trans (infix_separated ", " (List.mem_append_right _ hpart))

/-! ## Conditions of clauses -/

variable {catalog : Catalog} {site : Site} {depth : Nat} {first : List Condition}
  {plan node : Plan} {select : Select} {clause : Clause}

/-- A clause that is taken up has its condition among those of the selection, or among
those on the related rows of a join. -/
theorem infix_of_mem_filters (hselect : site.select catalog depth first plan = .ok select)
    (hclause : clause ∈ plan.filters) (hkept : plan.excludes clause = false) :
    (site.condition clause).pieces <:+: select.pieces := by
  obtain ⟨below, related, -, hrelated, rfl⟩ := Site.select_eq_ok_iff.1 hselect
  cases hrelation : Site.relationOf? clause with
  | none =>
      apply Select.infix_condition
      apply List.mem_append_left
      apply List.mem_append_right
      rw [Site.conditionList_eq_map]
      exact List.mem_map_of_mem (List.mem_filter.2 ⟨hclause, decide_eq_true hrelation⟩)
  | some name =>
      have hmem : name ∈ plan.filters.filterMap Site.relationOf? :=
        List.mem_filterMap.2 ⟨clause, hclause, hrelation⟩
      have hjoin : (Site.joins plan).get? name = some .inner := by
        rw [excludes_eq, hrelation, Option.any_some, decide_eq_false_iff_not] at hkept
        rw [Site.get?_joins, if_pos hmem]
        cases hget : plan.joins.get? name with
        | none => rfl
        | some join =>
            cases join with
            | inner => rfl
            | leftExclusive => exact absurd hget hkept
      obtain ⟨condition, hcondition, hjoined⟩ :=
        exists_of_mem_left hrelated (Table.get?_eq_some_iff.1 hjoin)
      obtain ⟨relation, joined, -, rfl⟩ := Site.joinCondition_eq_ok_iff.1 hjoined
      have hpart : site.condition clause ∈
          site.conditionList (Site.joinClauses plan.filters name .inner) := by
        rw [Site.conditionList_eq_map]
        exact List.mem_map_of_mem (List.mem_filter.2 ⟨hclause, decide_eq_true hrelation⟩)
      exact (Condition.infix_related _ _ (List.mem_cons_of_mem _ hpart)).trans
        (Select.infix_condition (List.mem_append_right _ hcondition))

/-- The selection for a plan contains one for each of its nodes. -/
theorem exists_select_of_mem_nodes
    (hsite : catalog.resources.get? plan.resource = some site.resource)
    (hselect : site.select catalog depth first plan = .ok select) (hnode : node ∈ plan.nodes) :
    ∃ (inner : Site) (deep : Nat) (tied : List Condition) (part : Select),
      catalog.resources.get? node.resource = some inner.resource ∧
      inner.select catalog deep tied node = .ok part ∧ part.pieces <:+: select.pieces := by
  induction plan using Plan.induction generalizing site depth first select with
  | step plan ih =>
      rcases Plan.mem_nodes_iff.1 hnode with rfl | ⟨entry, hentry, hnode⟩
      · exact ⟨site, depth, first, select, hsite, hselect, List.infix_refl _⟩
      · obtain ⟨below, related, hshows, -, heq⟩ := Site.select_eq_ok_iff.1 hselect
        obtain ⟨result, hresult, relation, inner, hfollow, other, hother, rfl⟩ :=
          exists_of_mem_left hshows hentry
        have hrelations : select.relations = below := by rw [heq]
        rw [← hrelations] at hresult
        have hshown := Select.infix_relation hresult
        obtain ⟨-, resource, hresource, rfl⟩ := Site.follow_eq_ok_iff.1 hfollow
        obtain ⟨deeper, deep, tied, part, hdeeper, hpart, hinfix⟩ :=
          ih entry hentry hresource hother hnode
        exact ⟨deeper, deep, tied, part, hdeeper, hpart, hinfix.trans hshown⟩

/-- Each clause of a node stands in the text unless it is about rows that must not be there. -/
theorem infix_of_mem_nodes (hsite : catalog.resources.get? plan.resource = some site.resource)
    (hselect : site.select catalog depth first plan = .ok select) (hnode : node ∈ plan.nodes)
    (hclause : clause ∈ node.filters) (hkept : node.excludes clause = false) :
    ∃ inner : Site, catalog.resources.get? node.resource = some inner.resource ∧
      (inner.condition clause).pieces <:+: select.pieces := by
  obtain ⟨inner, _, _, part, hinner, hpart, hinfix⟩ :=
    exists_select_of_mem_nodes hsite hselect hnode
  exact ⟨inner, hinner, (infix_of_mem_filters hpart hclause hkept).trans hinfix⟩

end Sql

end RestQuery
