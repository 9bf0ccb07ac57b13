import RestQuery.Filter.Compile
import RestQuery.Proofs.Outcome

/-!
# Problems of filter values

A value that is in disorder has a problem of its own, which is never that relations go too
deep: only levels have that one.

Main statements: `Filter.local_compile` and `Filter.local_compileExistence`.
-/

namespace RestQuery

/-- Whether a problem is one of a level, which follows relations too far, and not one of a
parameter. -/
def Problem.isDepth : Problem → Bool
  | tooDeep _ => true
  | _ => false

/-- A computation that fails has a problem of a parameter. -/
def Local (outcome : Except Problem α) : Prop :=
  ∀ problem, outcome = .error problem → problem.isDepth = false

theorem local_ok (value : α) : Local (.ok value : Except Problem α) := nofun

theorem local_error {problem : Problem} (hproblem : problem.isDepth = false) :
    Local (.error problem : Except Problem α) := by
  intro other herror
  exact Except.error.inj herror ▸ hproblem

theorem Local.bind {first : Except Problem α} (hfirst : Local first)
    {next : α → Except Problem β} (hnext : ∀ value, first = .ok value → Local (next value)) :
    Local (first >>= next) := by
  cases first with
  | error problem =>
      intro other herror
      obtain rfl := Except.error.inj herror
      exact hfirst problem rfl
  | ok value => exact hnext value rfl

theorem Local.map {outcome : Except Problem α} (hlocal : Local outcome) (f : α → β) :
    Local (outcome.map f) := by
  cases outcome with
  | error problem => exact local_error (hlocal problem rfl)
  | ok value => exact local_ok (f value)

theorem local_mapM {step : α → Except Problem β} (hstep : ∀ item, Local (step item))
    (items : List α) : Local (items.mapM step) := by
  induction items with
  | nil => exact local_ok []
  | cons item rest ih =>
      rw [List.mapM_cons]
      exact (hstep item).bind fun _ _ => ih.bind fun _ _ => local_ok _

namespace Filter

variable {type : FieldType} {field : FieldRef} {rule : FilterRule} {value : String}

/-! ## Single grammars -/

theorem Membership.local_operands (payload : String) (element : String → Option Operand) :
    Local (operands payload element) := by
  have htexts : Local (memberTexts payload) := by
    unfold memberTexts
    split
    · exact local_error rfl
    · exact local_error rfl
    · split
      · exact local_ok _
      · exact local_error rfl
  refine htexts.bind fun texts _ => ?_
  split
  · exact local_ok _
  · exact local_error rfl

theorem Membership.local_intent (membership : Membership) (field : FieldRef)
    (element : String → Option Operand) : Local (membership.intent field element).clauses := by
  have hoperands := local_operands membership.payload element
  rw [intent]
  dsimp only
  exact hoperands.map _

theorem local_marked (operator : Operator) (check : Check) (rest : List Char) :
    Local (marked operator check field value rest).clauses := by
  rw [marked]
  split
  · exact local_error rfl
  · exact local_ok _

theorem local_compared (operator : Operator) (check : Check) (rest : List Char) :
    Local (compared operator check field value rest).clauses := by
  rw [compared]
  split
  · exact local_ok _
  · exact local_error rfl

theorem local_dated (operator : Operator) (check : Check) (word rest : String)
    (expected : Nat) : Local (dated operator check field word rest expected).clauses := by
  have hdate : ∀ s, Local (readDate s) := by
    intro s
    rw [readDate]
    split
    · exact local_ok _
    · exact local_error rfl
  rw [dated]
  split
  · exact (local_mapM hdate _).map _
  · exact local_error rfl

theorem local_presence? {intent : Intent} (hpresence : presence? field value = some intent) :
    Local intent.clauses := by
  rw [presence?] at hpresence
  split at hpresence
  · exact Option.some.inj hpresence ▸ local_ok _
  split at hpresence
  · exact Option.some.inj hpresence ▸ local_ok _
  · cases hpresence

/-! ## Readers -/

theorem local_readText (field : FieldRef) (value : String) :
    Local (readText field value).clauses := by
  rw [readText]
  split
  next hpresence => exact local_presence? hpresence
  next => exact Membership.local_intent _ _ _
  next =>
    split
    · exact local_marked _ _ _
    · exact local_marked _ _ _
    · exact local_marked _ _ _
    · exact local_marked _ _ _
    · exact local_ok _

theorem local_readNumber (field : FieldRef) (value : String) :
    Local (readNumber field value).clauses := by
  rw [readNumber]
  split
  next hpresence => exact local_presence? hpresence
  next => exact Membership.local_intent _ _ _
  next =>
    split
    · exact local_compared _ _ _
    · exact local_compared _ _ _
    · exact local_compared _ _ _
    · exact local_compared _ _ _
    · exact local_compared _ _ _

/-- A reader fails with a problem of the value, and what it reads has none but such
problems. -/
def LocalReader (outcome : Except Problem Intent) : Prop :=
  Local outcome ∧ ∀ intent, outcome = .ok intent → Local intent.clauses

theorem localReader_ok {intent : Intent} (hlocal : Local intent.clauses) :
    LocalReader (.ok intent) := by
  refine ⟨local_ok intent, fun other hok => ?_⟩
  exact Except.ok.inj hok ▸ hlocal

theorem localReader_error {problem : Problem} (hproblem : problem.isDepth = false) :
    LocalReader (.error problem) :=
  ⟨local_error hproblem, fun _ hok => by cases hok⟩

theorem localReader_named (operator : Operator) (check : Check) (rest : String) :
    LocalReader (named operator check field value rest) := by
  rw [named]
  split
  · exact localReader_ok (local_ok _)
  · exact localReader_error rfl

theorem localReader_readUuid (field : FieldRef) (value : String) :
    LocalReader (readUuid field value) := by
  rw [readUuid]
  split
  next hpresence => exact localReader_ok (local_presence? hpresence)
  next => exact localReader_ok (Membership.local_intent _ _ _)
  next =>
    split
    · exact localReader_named _ _ _
    · exact localReader_named _ _ _

theorem localReader_readBool (field : FieldRef) (value : String) :
    LocalReader (readBool field value) := by
  rw [readBool]
  split
  next hpresence => exact localReader_ok (local_presence? hpresence)
  next =>
    dsimp only
    split
    · exact localReader_ok (local_ok _)
    split
    · exact localReader_ok (local_ok _)
    · exact localReader_error rfl

theorem localReader_readDatetime (field : FieldRef) (value : String) :
    LocalReader (readDatetime field value) := by
  rw [readDatetime]
  split
  next hpresence => exact localReader_ok (local_presence? hpresence)
  next => exact localReader_ok (local_dated _ _ _ _ _)
  next => exact localReader_ok (local_dated _ _ _ _ _)
  next => exact localReader_ok (local_dated _ _ _ _ _)
  next => exact localReader_error rfl

theorem localReader_read (type : FieldType) (field : FieldRef) (value : String) :
    LocalReader (read type field value) := by
  cases type with
  | string => exact localReader_ok (local_readText field value)
  | uuid => exact localReader_readUuid field value
  | number => exact localReader_ok (local_readNumber field value)
  | boolean => exact localReader_readBool field value
  | datetime => exact localReader_readDatetime field value
  | object | geometry => exact localReader_error rfl

theorem localReader_readFlag (type : FieldType) (field : FieldRef) (b : Bool) :
    LocalReader (readFlag type field b) := by
  cases type with
  | boolean => exact localReader_ok (local_ok _)
  | _ => exact localReader_error rfl

/-! ## Whole values -/

theorem local_permit {outcome : Except Problem Intent} (hreader : LocalReader outcome) :
    Local (outcome >>= (·.permit rule)) := by
  refine hreader.1.bind fun intent hintent => ?_
  rw [Intent.permit]
  split
  · exact hreader.2 intent hintent
  · exact local_error rfl

theorem local_compileText (type : FieldType) (field : FieldRef) (rule : FilterRule)
    (value : String) : Local (compileText type field rule value) :=
  local_permit (localReader_read type field value)

theorem local_compileTexts {values : List String} {problems : List Problem}
    (hcompile : compileTexts type field rule values = .error problems) :
    ∀ problem ∈ problems, problem.isDepth = false := by
  induction values generalizing problems with
  | nil => cases hcompile
  | cons value rest ih =>
      have hvalue := local_compileText type field rule value
      rw [compileTexts] at hcompile
      split at hcompile
      · cases hcompile
      next others _ hrest =>
        obtain rfl := Except.error.inj hcompile
        exact ih hrest
      next problem clauses hfirst _ =>
        obtain rfl := Except.error.inj hcompile
        exact List.forall_mem_singleton.2 (hvalue problem hfirst)
      next problem others hfirst hrest =>
        obtain rfl := Except.error.inj hcompile
        exact List.forall_mem_cons.2 ⟨hvalue problem hfirst, ih hrest⟩

theorem mapError_eq_error {outcome : Except Problem α} {problems : List Problem}
    (herror : outcome.mapError ([·]) = .error problems) (hlocal : Local outcome) :
    ∀ problem ∈ problems, problem.isDepth = false := by
  cases outcome with
  | ok value => cases herror
  | error problem =>
      obtain rfl := Except.error.inj herror
      exact List.forall_mem_singleton.2 (hlocal problem rfl)

/-- No value of a filter parameter is a problem about depth. -/
theorem local_compile {value : ParamValue} {problems : List Problem}
    (hcompile : compile type field rule value = .error problems) :
    ∀ problem ∈ problems, problem.isDepth = false := by
  unfold compile at hcompile
  split at hcompile
  next s => exact mapError_eq_error hcompile (local_compileText type field rule s)
  next b => exact mapError_eq_error hcompile (local_permit (localReader_readFlag type field b))
  next =>
    obtain rfl := Except.error.inj hcompile
    exact List.forall_mem_singleton.2 rfl
  next => exact local_compileTexts hcompile

/-- A value in disorder has a problem. -/
theorem problems_ne_nil_of_compile {value : ParamValue} {problems : List Problem}
    (hcompile : compile type field rule value = .error problems) : problems ≠ [] := by
  have hsingle : ∀ {α : Type} {outcome : Except Problem α},
      outcome.mapError ([·]) = .error problems → problems ≠ [] := by
    intro α outcome herror
    cases outcome with
    | ok value => cases herror
    | error problem => exact Except.error.inj herror ▸ List.cons_ne_nil _ _
  have htexts : ∀ {values : List String} {problems : List Problem},
      compileTexts type field rule values = .error problems → problems ≠ [] := by
    intro values
    induction values with
    | nil => exact nofun
    | cons value rest ih =>
        intro problems herror
        rw [compileTexts] at herror
        split at herror
        · cases herror
        next others _ hrest => exact Except.error.inj herror ▸ ih hrest
        · exact Except.error.inj herror ▸ List.cons_ne_nil _ _
        · exact Except.error.inj herror ▸ List.cons_ne_nil _ _
  unfold compile at hcompile
  split at hcompile
  · exact hsingle hcompile
  · exact hsingle hcompile
  · exact Except.error.inj hcompile ▸ List.cons_ne_nil _ _
  · exact htexts hcompile

theorem local_compileExistence (relation : Relation) (rule : FilterRule) (value : String) :
    Local (compileExistence relation rule value) := by
  rw [compileExistence]
  dsimp only
  split
  · split
    · exact local_ok _
    · exact local_error rfl
  split
  · split
    · exact local_ok _
    · exact local_error rfl
  · exact local_error rfl

end Filter

end RestQuery
