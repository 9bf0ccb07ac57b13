import RestQuery.Proofs.Plan.Columns
import RestQuery.Proofs.Plan.Filters
import RestQuery.Proofs.Sql.Placeholders

/-!
# Joins of fields

A node of a plan that filters by a field of a related row joins the relation.  No node orders by
one.

Main statement: `Level.Gives.joinsFields`.
-/

namespace RestQuery

theorem Clause.fieldsAll_eq_flatMap (parts : List Clause) :
    fieldsAll parts = parts.flatMap fields := by
  induction parts with
  | nil => rfl
  | cons part rest ih => rw [fieldsAll, ih, List.flatMap_cons]

theorem Clause.fields_onField (check : Check) (field : FieldRef) (operands : List Operand) :
    (onField check field operands).fields = [field] := by
  simp [onField, fields, fieldsAll]

/-- The clauses of a filter on a field are about no other field. -/
theorem Clause.Applies.eq_of_mem_fields {type : FieldType} {field other : FieldRef}
    {operator : Operator} {clause : Clause} (happlies : clause.Applies type field operator)
    (hmem : other ∈ clause.fields) : other = field := by
  induction happlies with
  | test =>
      rw [fields_onField] at hmem
      exact List.mem_singleton.1 hmem
  | anyOf _ _ ih =>
      rw [Clause.anyOf, fields, fieldsAll_eq_flatMap] at hmem
      obtain ⟨part, hpart, hmem⟩ := List.mem_flatMap.1 hmem
      exact ih part hpart hmem

/-- A field belongs to a relation that a table has among its keys, if it belongs to any. -/
def FieldRef.IsJoined (joins : Table JoinKind) (field : FieldRef) : Prop :=
  ∀ name, field.scope = .relation name → name ∈ joins.keys

/-- The relations of the fields of a node are among its joins. -/
def Plan.JoinsFields (node : Plan) : Prop := ∀ field ∈ node.fieldRefs, field.IsJoined node.joins

namespace Level

variable {document : Document} {catalog : Catalog} {level : Level}

namespace Applied

variable {applied more : Applied}

/-- The relations of the fields so far are among the joins so far. -/
def Joined (applied : Applied) : Prop :=
  ∀ clause ∈ applied.clauses, ∀ field ∈ clause.fields, field.IsJoined applied.joins

theorem Joined.append (hjoined : applied.Joined) (hgrows : applied.Grows more)
    {clauses : List Clause} (hclauses : more.clauses = applied.clauses ++ clauses)
    (hnew : ∀ clause ∈ clauses, ∀ field ∈ clause.fields, field.IsJoined more.joins) :
    more.Joined := by
  intro clause hmem
  rw [hclauses] at hmem
  rcases List.mem_append.1 hmem with hold | hadded
  · intro field hfield name hscope
    obtain ⟨join, hjoin⟩ := Table.mem_keys_iff.1 (hjoined clause hold field hfield name hscope)
    obtain ⟨stored, hstored, -⟩ := hgrows.joins name join hjoin
    exact Table.mem_keys_iff.2 ⟨stored, hstored⟩
  · exact hnew clause hadded

/-- A filter on a field of a related row joins the relation. -/
theorem isJoined_addField (applied : Applied) (field : FieldRef) (clauses : List Clause) :
    field.IsJoined (applied.addField field clauses).joins := by
  intro name hscope
  rw [addField, hscope, Table.mem_keys_iff]
  exact ⟨_, (Table.get?_insertNew _ _ _ _).trans (if_pos rfl)⟩

theorem Joined.add (hjoined : applied.Joined) (filter : Filter) : (applied.add filter).Joined := by
  have hgrows := applied.grows_add filter
  rw [Applied.add] at hgrows ⊢
  split
  next field type hsubject =>
    rw [hsubject] at hgrows
    dsimp only at hgrows
    split
    next clauses hcompile =>
      rw [hcompile] at hgrows
      refine hjoined.append hgrows rfl fun clause hmem other hother => ?_
      obtain ⟨operator, -, happlies⟩ := (Filter.compile_allowed hcompile).2 clause hmem
      obtain rfl := happlies.eq_of_mem_fields hother
      exact applied.isJoined_addField _ _
    next => exact hjoined
  next relation hsubject =>
    rw [hsubject] at hgrows
    dsimp only at hgrows ⊢
    split
    next join clauses hcompiled =>
      rw [hcompiled] at hgrows
      refine hjoined.append hgrows rfl fun clause hmem other hother => ?_
      obtain ⟨value, -, hcompile⟩ := bind_eq_ok_iff.1 hcompiled
      rcases Filter.compileExistence_eq_ok (mapError_eq_ok_iff.1 hcompile) with
        ⟨-, rfl, -⟩ | ⟨-, -, rfl⟩
      · cases hmem
      · rw [List.mem_singleton.1 hmem, Clause.fields_onField, List.mem_singleton] at hother
        subst hother
        intro name hscope
        obtain rfl := Scope.relation.inj hscope
        obtain ⟨stored, hstored, -⟩ := applied.exists_get?_addExistence relation join
          [.onField .isNull ⟨.relation relation.name, relation.targetKey⟩ []]
        exact Table.mem_keys_iff.2 ⟨stored, hstored⟩
    next => exact hjoined

theorem Joined.addSearch (hjoined : applied.Joined) (column : String) (parameter : Parameter) :
    (applied.addSearch column parameter).Joined := by
  rw [Applied.addSearch]
  split
  next words hwords =>
    refine hjoined.append ⟨List.prefix_append _ _, (Grows.refl applied).joins⟩ rfl ?_
    intro clause hmem field hfield
    obtain ⟨bare, rfl⟩ := Filter.eq_onField_of_mem_compileSearch hmem
    rw [Clause.fields_onField, List.mem_singleton] at hfield
    subst hfield
    intro name hscope
    cases hscope
  next => exact hjoined

end Applied

/-- The filters of a level join the relations of all fields that they test. -/
theorem Reading.apply_joined (reading : Reading) (level : Level) :
    (reading.apply level).Joined := by
  have hempty : Applied.Joined {} := fun clause hmem => by cases hmem
  have happlied := List.foldlRecOn (motive := Applied.Joined) reading.filters Applied.add hempty
    fun applied hjoined filter _ => hjoined.add filter
  rw [Reading.apply]
  split
  next parameter _ => exact happlied.addSearch _ parameter
  next => exact happlied

theorem Orders.isJoined {field : FieldRef} (horders : level.Orders field)
    (joins : Table JoinKind) : field.IsJoined joins := by
  intro name hscope
  rcases horders with ⟨hown, -⟩ | ⟨hown, -⟩ <;> cases hown.symm.trans hscope

/-- Every node of a plan joins the relations of its fields. -/
theorem Gives.joinsFields (hresolve : document.resolve = .ok catalog) {plan node : Plan}
    (hgives : level.Gives catalog plan) (hheld : level.Held catalog)
    (hnode : node ∈ plan.nodes) : node.JoinsFields := by
  induction plan using Plan.induction generalizing level with
  | step plan ih =>
      rcases Plan.mem_nodes_iff.1 hnode with rfl | ⟨entry, hentry, hnode⟩
      · intro field hfield
        rcases List.mem_append.1 hfield with hfilter | horder
        · obtain ⟨params, reading, -, -, -, hfilters, hjoins⟩ := hgives.read
          obtain ⟨clause, hclause, hmem⟩ := List.mem_flatMap.1 hfilter
          rw [hfilters] at hclause
          rw [hjoins]
          exact reading.apply_joined level clause hclause field hmem
        · obtain ⟨item, hitem, rfl⟩ := List.mem_map.1 horder
          exact ((hgives.refers hheld hresolve).order item hitem).isJoined _
      · obtain ⟨relation, child, hrelation, hchild, hsub⟩ := hgives.relation hentry
        have hchildHeld := hheld.of_child (Document.sound_of_resolve hresolve) hrelation hchild
        exact ih entry hentry hsub hchildHeld hnode

end Level

end RestQuery
