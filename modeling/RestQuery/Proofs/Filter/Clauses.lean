import RestQuery.Filter.Compile
import RestQuery.Proofs.Outcome

/-!
# The clauses of filters

Every filter grammar turns a value into tests of one field by the operator that the
value names, with as many operands as the tests take and of the type of the field.
The rule of the filter has allowed the operator.

Main statements: `Filter.compile_composed` and `Filter.compile_allowed` for filters on fields, and
`Filter.compileExistence_eq_ok` for filters on the existence of related rows.
-/

namespace RestQuery

def Operand.type : Operand → FieldType
  | .text _ => .string
  | .integer _ => .number
  | .bool _ => .boolean
  | .uuid _ => .uuid
  | .datetime _ => .datetime

namespace Check

/-- The operator that a test stands for in filters on fields of a type. -/
def operator? : FieldType → Check → Option Operator
  | _, .isNull | _, .empty => some .isNull
  | _, .isNotNull | _, .nonEmpty => some .isNotNull
  | .string, .equals | .uuid, .equals | .number, .equals | .boolean, .equals => some .equals
  | .string, .notLike | .uuid, .notEquals => some .notEquals
  | .string, .inSet | .uuid, .inSet | .number, .inSet => some .isIn
  | .string, .notInSet | .uuid, .notInSet | .number, .notInSet => some .notIn
  | .string, .likeContains => some .contains
  | .string, .likePrefix => some .startsWith
  | .string, .likeSuffix => some .endsWith
  | .number, .greaterThan => some .greaterThan
  | .number, .greaterThanOrEqual => some .greaterThanOrEqual
  | .number, .lessThan => some .lessThan
  | .number, .lessThanOrEqual => some .lessThanOrEqual
  | .datetime, .lessThan => some .before
  | .datetime, .greaterThan => some .after
  | .datetime, .between => some .between
  | _, _ => none

/-- Whether a test takes so many operands. -/
def takes (count : Nat) : Check → Bool
  | .isNull | .isNotNull | .nonEmpty | .empty => count = 0
  | .inSet | .notInSet => 0 < count
  | .between => count = 2
  | _ => count = 1

end Check

/-- A clause tests one field of a type, by one operator. -/
inductive Clause.Applies (type : FieldType) (field : FieldRef) (operator : Operator) :
    Clause → Prop
  | test {check : Check} {operands : List Operand}
      (hoperator : check.operator? type = some operator)
      (hcount : check.takes operands.length)
      (htype : ∀ operand ∈ operands, operand.type = type) :
      Applies type field operator (.onField check field operands)
  | anyOf {parts : List Clause} (hne : parts ≠ [])
      (hparts : ∀ part ∈ parts, Applies type field operator part) :
      Applies type field operator (.anyOf parts)

/-- A clause that applies an operator to a field is about the table of the field. -/
theorem Clause.Applies.scope?_eq {type : FieldType} {field : FieldRef} {operator : Operator}
    {clause : Clause} (happlies : clause.Applies type field operator) :
    clause.scope? = some field.scope := by
  induction happlies with
  | test => rfl
  | @anyOf parts hne _ ih =>
      cases parts with
      | nil => exact absurd rfl hne
      | cons part rest =>
          simp only [Clause.anyOf, scope?, firstScope?, ih part List.mem_cons_self,
            Option.some_or]

namespace Filter

/-- The clauses by which a filter applies an operator to a field: the two for presence, the one for
absence, or one test that takes operands. -/
inductive Stands (type : FieldType) (field : FieldRef) : Operator → List Clause → Prop
  | present : Stands type field .isNotNull
      [.onField .isNotNull field [], .onField .nonEmpty field []]
  | absent : Stands type field .isNull
      [.anyOf [.onField .isNull field [], .onField .empty field []]]
  | test {operator : Operator} {check : Check} {operands : List Operand}
      (hoperator : check.operator? type = some operator) (hsome : operands ≠ [])
      (hcount : check.takes operands.length)
      (htype : ∀ operand ∈ operands, operand.type = type) :
      Stands type field operator [.onField check field operands]

variable {type : FieldType} {field : FieldRef} {value : String} {intent : Intent}

theorem Stands.applies {operator : Operator} {clauses : List Clause}
    (hstands : Stands type field operator clauses) :
    clauses ≠ [] ∧ ∀ clause ∈ clauses, clause.Applies type field operator := by
  have hnullary : ∀ {check : Check}, check.operator? type = some operator → check.takes 0 →
      (Clause.onField check field []).Applies type field operator :=
    fun hoperator hcount => .test hoperator hcount (by simp)
  refine ⟨by cases hstands <;> exact List.cons_ne_nil _ _, ?_⟩
  cases hstands with
  | present =>
      refine List.forall_mem_cons.2 ⟨?_, List.forall_mem_singleton.2 ?_⟩
      · exact hnullary (by cases type <;> rfl) rfl
      · exact hnullary (by cases type <;> rfl) rfl
  | absent =>
      refine List.forall_mem_singleton.2 (.anyOf (List.cons_ne_nil _ _) ?_)
      refine List.forall_mem_cons.2 ⟨?_, List.forall_mem_singleton.2 ?_⟩
      · exact hnullary (by cases type <;> rfl) rfl
      · exact hnullary (by cases type <;> rfl) rfl
  | test hoperator _ hcount htype =>
      exact List.forall_mem_singleton.2 (.test hoperator hcount htype)

/-- The clauses of an intent are those by which its operator is applied. -/
def Intent.Shaped (type : FieldType) (field : FieldRef) (intent : Intent) : Prop :=
  ∀ clauses, intent.clauses = .ok clauses → Stands type field intent.operator clauses

/-! ## One test -/

theorem shaped_error (operator : Operator) (problem : Problem) :
    Intent.Shaped type field ⟨operator, .error problem⟩ := by
  intro clauses hclauses
  cases hclauses

theorem shaped_test {operator : Operator} {check : Check} {operand : Operand}
    (hoperator : check.operator? type = some operator) (hcount : check.takes 1)
    (htype : operand.type = type) :
    (Intent.test operator check field [operand]).Shaped type field := by
  intro clauses hclauses
  obtain rfl := Except.ok.inj hclauses
  exact .test hoperator (List.cons_ne_nil _ _) hcount (List.forall_mem_singleton.2 htype)

theorem shaped_presence? (hpresence : presence? field value = some intent) :
    intent.Shaped type field := by
  intro clauses hclauses
  unfold presence? at hpresence
  split at hpresence
  · obtain rfl := Option.some.inj hpresence
    obtain rfl := Except.ok.inj hclauses
    exact .present
  split at hpresence
  · obtain rfl := Option.some.inj hpresence
    obtain rfl := Except.ok.inj hclauses
    exact .absent
  · cases hpresence

/-! ## Sets -/

namespace Membership

variable {payload : String} {items : List Json} {texts : List String}
  {element : String → Option Operand} {members : List Operand}

/-- The texts of members are had exactly if there are members and each of them has one. -/
theorem memberTexts_eq_ok_iff :
    memberTexts payload = .ok texts ↔ ∃ items, array? payload = some items ∧ items ≠ [] ∧
      List.Forall₂ (fun item text => memberText? item = some text) items texts := by
  unfold memberTexts
  constructor
  · intro htexts
    split at htexts
    · cases htexts
    · cases htexts
    next items hne hitems =>
      split at htexts
      next found hfound =>
        obtain rfl := Except.ok.inj htexts
        exact ⟨items, hitems, fun hnil => hne hnil, mapM_eq_some_iff.1 hfound⟩
      next => cases htexts
  · rintro ⟨items, hitems, hne, hrel⟩
    rw [hitems]
    cases items with
    | nil => exact absurd rfl hne
    | cons first rest => simp only [mapM_eq_some_iff.2 hrel]

/-- Operands result from an array with members of which each stands for one. -/
theorem operands_eq_ok_iff :
    operands payload element = .ok members ↔ ∃ items, array? payload = some items ∧ items ≠ [] ∧
      List.Forall₂ (fun item member => ∃ text, memberText? item = some text ∧
        element text = some member) items members := by
  simp only [forall₂_exists_iff]
  unfold operands
  constructor
  · intro hmembers
    obtain ⟨texts, htexts, hread⟩ := bind_eq_ok_iff.1 hmembers
    obtain ⟨items, hitems, hne, hrel⟩ := memberTexts_eq_ok_iff.1 htexts
    split at hread
    next found hfound =>
      obtain rfl := pure_eq_ok_iff.1 hread
      exact ⟨items, hitems, hne, texts, hrel, mapM_eq_some_iff.1 hfound⟩
    next => cases hread
  · rintro ⟨items, hitems, hne, texts, hrel, hmembers⟩
    refine bind_eq_ok_iff.2 ⟨texts, memberTexts_eq_ok_iff.2 ⟨items, hitems, hne, hrel⟩, ?_⟩
    rw [mapM_eq_some_iff.2 hmembers]
    rfl

theorem operands_of_array?_eq_none (element : String → Option Operand)
    (harray : array? payload = none) :
    operands payload element = .error (.unparsableList payload) := by
  have htexts : memberTexts payload = .error (.unparsableList payload) := by
    unfold memberTexts
    rw [harray]
  unfold operands
  rw [htexts]
  rfl

theorem memberTexts_eq_error {problem : Problem} (harray : array? payload = some items)
    (htexts : memberTexts payload = .error problem) : problem = .invalidListValues := by
  unfold memberTexts at htexts
  rw [harray] at htexts
  cases items with
  | nil => exact (Except.error.inj htexts).symm
  | cons first rest =>
      dsimp only at htexts
      split at htexts
      next => cases htexts
      next => exact (Except.error.inj htexts).symm

/-- The members of an array have one problem only. -/
theorem operands_eq_error {problem : Problem} (harray : array? payload = some items)
    (hmembers : operands payload element = .error problem) : problem = .invalidListValues := by
  unfold operands at hmembers
  cases htexts : memberTexts payload with
  | error other =>
      rw [htexts] at hmembers
      exact Except.error.inj hmembers ▸ memberTexts_eq_error harray htexts
  | ok texts =>
      rw [htexts] at hmembers
      dsimp only [bind, Except.bind] at hmembers
      split at hmembers
      next => cases hmembers
      next => exact (Except.error.inj hmembers).symm

theorem shaped_intent (membership : Membership) {element : String → Option Operand}
    (hin : Check.inSet.operator? type = some .isIn)
    (hnotIn : Check.notInSet.operator? type = some .notIn)
    (helement : ∀ s operand, element s = some operand → operand.type = type) :
    (membership.intent field element).Shaped type field := by
  intro clauses hclauses
  unfold intent at hclauses
  cases hmembers : operands membership.payload element with
  | error problem => simp [hmembers, Except.map] at hclauses
  | ok members =>
      obtain ⟨items, -, hitems, hrel⟩ := operands_eq_ok_iff.1 hmembers
      have hne : members ≠ [] := by
        rintro rfl
        exact hitems (List.forall₂_nil_right_iff.1 hrel)
      have htype : ∀ member ∈ members, member.type = type := by
        intro member hmem
        obtain ⟨item, -, text, -, htext⟩ := exists_of_mem_right hrel hmem
        exact helement text member htext
      rw [hmembers] at hclauses
      obtain rfl := Except.ok.inj hclauses
      have hcount : 0 < members.length := List.length_pos_of_ne_nil hne
      cases hexcluded : membership.excluded with
      | false =>
          simp only [intent, hexcluded]
          exact .test hin hne (by simpa [Check.takes] using hcount) htype
      | true =>
          simp only [intent, hexcluded]
          exact .test hnotIn hne (by simpa [Check.takes] using hcount) htype

end Membership

/-! ## The grammars -/

theorem shaped_marked {operator : Operator} {check : Check} (rest : List Char)
    (hoperator : check.operator? .string = some operator) (hcount : check.takes 1) :
    (marked operator check field value rest).Shaped .string field := by
  unfold marked
  split
  · exact shaped_error _ _
  · exact shaped_test hoperator hcount rfl

theorem shaped_readText : (readText field value).Shaped .string field := by
  unfold readText
  split
  next hpresence => exact shaped_presence? hpresence
  next membership _ _ =>
    refine membership.shaped_intent rfl rfl fun s operand helement => ?_
    obtain rfl := Option.some.inj helement
    rfl
  · split
    · exact shaped_marked _ rfl rfl
    · exact shaped_marked _ rfl rfl
    · exact shaped_marked _ rfl rfl
    · exact shaped_marked _ rfl rfl
    · exact shaped_test rfl rfl rfl

theorem shaped_named {operator : Operator} {check : Check} {rest : String}
    (hnamed : named operator check field value rest = .ok intent)
    (hoperator : check.operator? .uuid = some operator) (hcount : check.takes 1) :
    intent.Shaped .uuid field := by
  unfold named at hnamed
  split at hnamed
  · obtain rfl := Except.ok.inj hnamed
    exact shaped_test hoperator hcount rfl
  · cases hnamed

theorem shaped_readUuid (hread : readUuid field value = .ok intent) :
    intent.Shaped .uuid field := by
  unfold readUuid at hread
  split at hread
  next hpresence =>
    obtain rfl := Except.ok.inj hread
    exact shaped_presence? hpresence
  next membership _ _ =>
    obtain rfl := Except.ok.inj hread
    refine membership.shaped_intent rfl rfl fun s operand helement => ?_
    obtain ⟨id, -, rfl⟩ := Option.map_eq_some_iff.1 helement
    rfl
  · split at hread
    · exact shaped_named hread rfl rfl
    · exact shaped_named hread rfl rfl

theorem shaped_compared {operator : Operator} {check : Check} (rest : List Char)
    (hoperator : check.operator? .number = some operator) (hcount : check.takes 1) :
    (compared operator check field value rest).Shaped .number field := by
  unfold compared
  split
  · exact shaped_test hoperator hcount rfl
  · exact shaped_error _ _

theorem shaped_readNumber : (readNumber field value).Shaped .number field := by
  unfold readNumber
  split
  next hpresence => exact shaped_presence? hpresence
  next membership _ _ =>
    refine membership.shaped_intent rfl rfl fun s operand helement => ?_
    obtain ⟨n, -, rfl⟩ := Option.map_eq_some_iff.1 helement
    rfl
  · split
    · exact shaped_compared _ rfl rfl
    · exact shaped_compared _ rfl rfl
    · exact shaped_compared _ rfl rfl
    · exact shaped_compared _ rfl rfl
    · exact shaped_compared _ rfl rfl

theorem shaped_equalsBool (b : Bool) : (equalsBool field b).Shaped .boolean field :=
  shaped_test rfl rfl rfl

theorem shaped_readBool (hread : readBool field value = .ok intent) :
    intent.Shaped .boolean field := by
  unfold readBool at hread
  split at hread
  next hpresence =>
    obtain rfl := Except.ok.inj hread
    exact shaped_presence? hpresence
  dsimp only at hread
  split at hread
  · obtain rfl := Except.ok.inj hread
    exact shaped_equalsBool true
  split at hread
  · obtain rfl := Except.ok.inj hread
    exact shaped_equalsBool false
  · cases hread

theorem type_of_readDate {s : String} {operand : Operand} (hread : readDate s = .ok operand) :
    operand.type = .datetime := by
  unfold readDate at hread
  split at hread
  · obtain rfl := Except.ok.inj hread
    rfl
  · cases hread

theorem shaped_dated {operator : Operator} {check : Check} {expected : Nat}
    (word rest : String) (hoperator : check.operator? .datetime = some operator)
    (hcount : check.takes expected) :
    (dated operator check field word rest expected).Shaped .datetime field := by
  intro clauses hclauses
  simp only [dated] at hclauses
  split at hclauses
  next hlength =>
    cases hdates : (Text.split '|' rest).mapM readDate with
    | error problem => simp [hdates, Except.map] at hclauses
    | ok dates =>
        rw [hdates] at hclauses
        obtain rfl := Except.ok.inj hclauses
        have hrel := mapM_eq_ok_iff.1 hdates
        have hsome : dates ≠ [] := by
          rintro rfl
          exact Text.split_ne_nil '|' rest (List.forall₂_nil_right_iff.1 hrel)
        refine .test hoperator hsome (by rwa [← hrel.length_eq, hlength]) fun date hdate => ?_
        obtain ⟨s, -, hs⟩ := exists_of_mem_right hrel hdate
        exact type_of_readDate hs
  next => cases hclauses

theorem shaped_readDatetime (hread : readDatetime field value = .ok intent) :
    intent.Shaped .datetime field := by
  unfold readDatetime at hread
  split at hread
  next hpresence =>
    obtain rfl := Except.ok.inj hread
    exact shaped_presence? hpresence
  · obtain rfl := Except.ok.inj hread
    exact shaped_dated _ _ rfl rfl
  · obtain rfl := Except.ok.inj hread
    exact shaped_dated _ _ rfl rfl
  · obtain rfl := Except.ok.inj hread
    exact shaped_dated _ _ rfl rfl
  · cases hread

/-- Whatever a value asks of a field is asked in one of the shapes of its operator, under every
type. -/
theorem shaped_read (hread : read type field value = .ok intent) :
    intent.Shaped type field := by
  cases type with
  | string => exact Except.ok.inj hread ▸ shaped_readText
  | uuid => exact shaped_readUuid hread
  | number => exact Except.ok.inj hread ▸ shaped_readNumber
  | boolean => exact shaped_readBool hread
  | datetime => exact shaped_readDatetime hread
  | object => cases hread
  | geometry => cases hread

theorem shaped_readFlag {b : Bool} (hread : readFlag type field b = .ok intent) :
    intent.Shaped type field := by
  cases type with
  | boolean => exact Except.ok.inj hread ▸ shaped_equalsBool b
  | _ => cases hread

/-! ## Whole values -/

variable {rule : FilterRule} {clauses : List Clause}

/-- The clauses of a filter are not empty, and each applies an operator that the rule
of the filter allows. -/
def Allowed (type : FieldType) (field : FieldRef) (rule : FilterRule)
    (clauses : List Clause) : Prop :=
  clauses ≠ [] ∧ ∀ clause ∈ clauses,
    ∃ operator, rule.allows operator = true ∧ clause.Applies type field operator

/-- The clauses of a filter are not empty, and each is one of those by which an operator is applied
that the rule of the filter allows. -/
def Composed (type : FieldType) (field : FieldRef) (rule : FilterRule)
    (clauses : List Clause) : Prop :=
  clauses ≠ [] ∧ ∀ clause ∈ clauses,
    ∃ operator part, rule.allows operator = true ∧ Stands type field operator part ∧
      clause ∈ part

theorem Composed.allowed (hcomposed : Composed type field rule clauses) :
    Allowed type field rule clauses := by
  refine ⟨hcomposed.1, fun clause hmem => ?_⟩
  obtain ⟨operator, part, hallows, hstands, hpart⟩ := hcomposed.2 clause hmem
  exact ⟨operator, hallows, hstands.applies.2 clause hpart⟩

/-- A rule that permits an intent lets its clauses through as they are. -/
theorem Intent.Shaped.composed (hshaped : intent.Shaped type field)
    (hpermit : intent.permit rule = .ok clauses) : Composed type field rule clauses := by
  obtain ⟨hallows, hclauses⟩ := Intent.permit_eq_ok_iff.1 hpermit
  have hstands := hshaped clauses hclauses
  exact ⟨hstands.applies.1, fun clause hmem => ⟨_, clauses, hallows, hstands, hmem⟩⟩

theorem compileText_composed (hcompile : compileText type field rule value = .ok clauses) :
    Composed type field rule clauses := by
  obtain ⟨intent, hread, hpermit⟩ := bind_eq_ok_iff.1 hcompile
  exact (shaped_read hread).composed hpermit

theorem compileTexts_composed {values : List String} (hne : values ≠ [])
    (hcompile : compileTexts type field rule values = .ok clauses) :
    Composed type field rule clauses := by
  induction values generalizing clauses with
  | nil => exact absurd rfl hne
  | cons value rest ih =>
      rw [compileTexts] at hcompile
      split at hcompile
      next first others hfirst hothers =>
        obtain rfl := Except.ok.inj hcompile
        obtain ⟨hfirstNe, hfirst⟩ := compileText_composed hfirst
        refine ⟨by simp [hfirstNe], fun clause hmem => ?_⟩
        rcases List.mem_append.1 hmem with hmem | hmem
        · exact hfirst clause hmem
        cases rest with
        | nil =>
            obtain rfl := Except.ok.inj hothers
            exact absurd hmem List.not_mem_nil
        | cons => exact (ih (List.cons_ne_nil _ _) hothers).2 clause hmem
      all_goals cases hcompile

/-- The clauses of a filter are those by which an allowed operator is applied, whatever its value.
-/
theorem compile_composed {value : ParamValue}
    (hcompile : compile type field rule value = .ok clauses) :
    Composed type field rule clauses := by
  cases value with
  | text s => exact compileText_composed (mapError_eq_ok_iff.1 hcompile)
  | flag b =>
      have hbind := mapError_eq_ok_iff.1 hcompile
      obtain ⟨intent, hread, hpermit⟩ := bind_eq_ok_iff.1 hbind
      exact (shaped_readFlag hread).composed hpermit
  | texts values =>
      cases values with
      | nil => cases hcompile
      | cons first rest => exact compileTexts_composed (List.cons_ne_nil _ _) hcompile

theorem compile_allowed {value : ParamValue}
    (hcompile : compile type field rule value = .ok clauses) :
    Allowed type field rule clauses :=
  (compile_composed hcompile).allowed

/-- A filter on existence gives a join and no clause, and its operator is allowed. -/
theorem compileExistence_eq_ok {relation : Relation} {join : JoinKind}
    (hcompile : compileExistence relation rule value = .ok (join, clauses)) :
    (join = .inner ∧ clauses = [] ∧ rule.allows .isNotNull = true) ∨
      (join = .leftExclusive ∧ rule.allows .isNull = true ∧
        clauses = [.onField .isNull ⟨.relation relation.name, relation.targetKey⟩ []]) := by
  unfold compileExistence at hcompile
  dsimp only at hcompile
  split at hcompile
  · split at hcompile
    next hallows =>
      simp only [Except.ok.injEq, Prod.mk.injEq] at hcompile
      exact .inl ⟨hcompile.1.symm, hcompile.2.symm, hallows⟩
    next => cases hcompile
  split at hcompile
  · split at hcompile
    next hallows =>
      simp only [Except.ok.injEq, Prod.mk.injEq] at hcompile
      exact .inr ⟨hcompile.1.symm, hallows, hcompile.2.symm⟩
    next => cases hcompile
  · cases hcompile

/-- A search is one test of the search column with one text. -/
theorem eq_onField_of_mem_compileSearch {column words : String} {clause : Clause}
    (hmem : clause ∈ compileSearch column words) :
    ∃ s, clause = .onField .fullTextMatch ⟨.resource, column⟩ [.text s] := by
  unfold compileSearch at hmem
  dsimp only at hmem
  split at hmem
  · cases hmem
  · exact ⟨_, List.mem_singleton.1 hmem⟩

end Filter

end RestQuery
