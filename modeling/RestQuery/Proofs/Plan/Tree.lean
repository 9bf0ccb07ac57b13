import RestQuery.Plan.Basic
import RestQuery.Plan.Level

/-!
# Plans as trees

The plans of relations make a plan a tree.  Its nodes are the plan itself and those of
its relations, and each of them is reached in one of the ways that capabilities are
declared for.
-/

namespace RestQuery

def Target.referrer : Target → Referrer
  | list => .list
  | single => .single

namespace Plan

mutual

/-- The plans of a tree, the root first. -/
def nodes : Plan → List Plan
  | ⟨resource, referrer, filters, joins, limit, offset, order, fields, relations, errors⟩ =>
    ⟨resource, referrer, filters, joins, limit, offset, order, fields, relations, errors⟩
      :: nodesBelow relations

def nodesBelow : List (String × Plan) → List Plan
  | [] => []
  | (_, plan) :: rest => plan.nodes ++ nodesBelow rest

end

theorem nodes_eq (plan : Plan) : plan.nodes = plan :: nodesBelow plan.relations := by
  cases plan
  rfl

theorem nodesBelow_eq_flatMap (relations : List (String × Plan)) :
    nodesBelow relations = relations.flatMap fun entry => entry.2.nodes := by
  induction relations with
  | nil => rfl
  | cons entry rest ih => rw [nodesBelow, ih, List.flatMap_cons]

/-- The nodes of a plan are the plan itself and the nodes of the plans of its relations. -/
theorem mem_nodes_iff {plan node : Plan} :
    node ∈ plan.nodes ↔ node = plan ∨ ∃ entry ∈ plan.relations, node ∈ entry.2.nodes := by
  rw [nodes_eq, nodesBelow_eq_flatMap, List.mem_cons, List.mem_flatMap]

/-- A node of a plan that is made for a target, and the way in which it is reached. -/
inductive Reaches (plan : Plan) (target : Target) : Referrer → Plan → Prop
  | root : Reaches plan target target.referrer plan
  | along {referrer : Referrer} {node : Plan} {entry : String × Plan}
      (hnode : Reaches plan target referrer node) (hentry : entry ∈ node.relations) :
      Reaches plan target
        (.nested node.resource entry.1 (referrer = .single)) entry.2

theorem sizeOf_lt_of_mem_relations {plan : Plan} {entry : String × Plan}
    (hmem : entry ∈ plan.relations) : sizeOf entry.2 < sizeOf plan := by
  cases plan with
  | mk resource referrer filters joins limit offset order fields relations errors =>
      have hentry : sizeOf entry < sizeOf relations := List.sizeOf_lt_of_mem hmem
      have hsecond : sizeOf entry.2 < sizeOf entry := by
        cases entry
        simp only [Prod.mk.sizeOf_spec]
        omega
      simp only [mk.sizeOf_spec]
      omega

/-- What holds of a plan if it holds of the plans of its relations holds of every plan. -/
theorem induction {motive : Plan → Prop}
    (step : ∀ plan : Plan, (∀ entry ∈ plan.relations, motive entry.2) → motive plan)
    (plan : Plan) : motive plan :=
  step plan fun entry hmem =>
    have := sizeOf_lt_of_mem_relations hmem
    induction step entry.2
termination_by sizeOf plan

end Plan

end RestQuery
