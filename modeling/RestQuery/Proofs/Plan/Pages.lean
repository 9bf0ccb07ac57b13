import RestQuery.Proofs.Filter.Elements
import RestQuery.Proofs.Plan.Columns
import RestQuery.Proofs.Plan.Controls

/-!
# Pages

A node that is paged has a limit and an offset.  Each is the number that the caller asks for, if it
is one that is permitted, and otherwise the declared one; a value that does not give a permitted
number is reported once.  No limit is above the largest one permitted.  It is at least one, unless
the limit that is declared for callers who ask for none is zero.

Main statement: `Document.plan_pages`.
-/

namespace RestQuery

namespace Level

/-- A count is a decimal number of 32 bits. -/
theorem readCount?_eq_some_iff {s : String} {n : UInt32} :
    readCount? s = some n ↔ Text.Denotes s n.toNat := by
  simp only [readCount?, Option.bind_eq_bind, Option.bind_eq_some_iff,
    Filter.natural?_eq_some_iff, Option.ite_none_right_eq_some, Option.some.injEq]
  constructor
  · rintro ⟨k, hdenotes, hfits, rfl⟩
    rwa [UInt32.toNat_ofNat_of_lt' hfits]
  · intro hdenotes
    exact ⟨n.toNat, hdenotes, n.toNat_lt, UInt32.ofNat_toNat⟩

/-! ## Controls that are numbers -/

/-- What is wrong with the value for a control that has to be a number. -/
def numberProblem (problem : Problem) (parameter : Parameter) : Problem :=
  if parameter.value.single?.isNone then .singleValueRequired else problem

/-- A way to read a control takes the permitted numbers in texts, and has one problem with
every other text. -/
structure ReadsNumber (permitted : Nat → Prop) (problem : Problem)
    (read : Parameter → Except RequestError UInt32) : Prop where
  ok_iff : ∀ {parameter n}, read parameter = .ok n ↔
    ∃ s, parameter.value.single? = some s ∧ Text.Denotes s n.toNat ∧ permitted n.toNat
  eq_error : ∀ {parameter error}, read parameter = .error error →
    error = parameter.error (numberProblem problem parameter)
  fits : ∀ n, permitted n → n < UInt32.size
  about : problem.isRefusal = false

variable {parameter : Parameter} {error : RequestError}

/-- What goes wrong with a single text goes wrong behind the check that there is one. -/
theorem eq_of_single_bind {next : String → Except RequestError UInt32} {problem : Problem}
    (hnext : ∀ s, next s = .error error → error = parameter.error problem)
    (herror : parameter.single >>= next = .error error) :
    error = parameter.error (numberProblem problem parameter) := by
  rw [Parameter.single] at herror
  rw [numberProblem]
  cases hvalue : parameter.value.single? with
  | none =>
      rw [hvalue] at herror
      exact (Except.error.inj herror).symm
  | some s =>
      rw [hvalue] at herror
      exact hnext s herror

theorem readsNumber_limit (max : UInt32) :
    ReadsNumber (fun n => 1 ≤ n ∧ n ≤ max.toNat) (.invalidLimit max) (readLimit max) where
  ok_iff := by
    intro parameter n
    rw [readLimit_eq_ok_iff]
    simp only [readCount?_eq_some_iff, UInt32.le_iff_toNat_le, UInt32.toNat_one]
  eq_error := by
    refine eq_of_single_bind fun s herror => ?_
    split at herror
    · split at herror
      · cases herror
      · exact (Except.error.inj herror).symm
    · exact (Except.error.inj herror).symm
  fits := fun n hn => hn.2.trans_lt max.toNat_lt
  about := rfl

theorem readsNumber_offset :
    ReadsNumber (fun n => n < UInt32.size) .invalidOffset readOffset where
  ok_iff := by
    intro parameter n
    rw [readOffset_eq_ok_iff]
    simp only [readCount?_eq_some_iff, n.toNat_lt_size, and_true]
  eq_error := by
    refine eq_of_single_bind fun s herror => ?_
    split at herror
    · cases herror
    · exact (Except.error.inj herror).symm
  fits := fun _ hn => hn
  about := rfl

variable {capability : Capability} {routed : Routed}

theorem limit_of_paged (hpaged : capability.paged = true) :
    limit capability routed =
      ((controlValue (routed.control? .limit) capability.defaultLimit
          (readLimit capability.maxLimit)).map some id) := by
  rw [limit, if_pos hpaged]
  rfl

theorem offset_of_paged (hpaged : capability.paged = true) :
    offset capability routed =
      ((controlValue (routed.control? .offset) 0 readOffset).map some id) := by
  rw [offset, if_pos hpaged]
  rfl

end Level

namespace Visit

variable {catalog : Catalog} {visit : Visit} {plan : Plan} {control : Control} {default : UInt32}
  {permitted : Nat → Prop} {problem : Problem} {read : Parameter → Except RequestError UInt32}

/-- The value for a control is one text that denotes a number. -/
def Counts (visit : Visit) (control : Control) (n : Nat) : Prop :=
  ∃ parameter s, visit.routed.control? control = some parameter ∧
    parameter.value.single? = some s ∧ Text.Denotes s n

/-- A control gives a number: the one that its value denotes, if it is permitted, and otherwise
the default one.  In the plan of the whole request there is one error in the value if it does not
denote a permitted number, and none if it does. -/
structure Yields (visit : Visit) (plan : Plan) (control : Control) (permitted : Nat → Prop)
    (default : UInt32) (problem : Problem) (n : UInt32) : Prop where
  value : visit.Counts control n.toNat ∧ permitted n.toNat ∨
    n = default ∧ ∀ k, visit.Counts control k → ¬permitted k
  accepted : ∀ parameter k, visit.routed.control? control = some parameter →
    visit.Counts control k → permitted k →
      plan.errors.filter (·.isAbout parameter.trace) = []
  rejected : ∀ parameter, visit.routed.control? control = some parameter →
    (∀ k, visit.Counts control k → ¬permitted k) →
      plan.errors.filter (·.isAbout parameter.trace) =
        [parameter.error (Level.numberProblem problem parameter)]

/-- The value of a control and its errors, according to whether it denotes a permitted number. -/
theorem controlValue_of_counts (hreads : Level.ReadsNumber permitted problem read) {n : Nat}
    (hcounts : visit.Counts control n) (hpermitted : permitted n) :
    Level.controlValue (visit.routed.control? control) default read = (UInt32.ofNat n, []) := by
  obtain ⟨parameter, s, hgiven, hsingle, hdenotes⟩ := hcounts
  have htoNat : (UInt32.ofNat n).toNat = n := UInt32.toNat_ofNat_of_lt' (hreads.fits n hpermitted)
  have hread : read parameter = .ok (UInt32.ofNat n) := by
    rw [hreads.ok_iff, htoNat]
    exact ⟨s, hsingle, hdenotes, hpermitted⟩
  rw [hgiven, Level.controlValue, hread]

/-- What denotes no permitted number leaves the default. -/
theorem controlValue_of_not_counts (hreads : Level.ReadsNumber permitted problem read)
    (hnone : ∀ n, visit.Counts control n → ¬permitted n) :
    Level.controlValue (visit.routed.control? control) default read =
      (default, (visit.routed.control? control).toList.map fun parameter =>
        parameter.error (Level.numberProblem problem parameter)) := by
  cases hgiven : visit.routed.control? control with
  | none => rfl
  | some parameter =>
      cases hread : read parameter with
      | ok n =>
          obtain ⟨s, hsingle, hdenotes, hpermitted⟩ := hreads.ok_iff.1 hread
          exact absurd hpermitted (hnone n.toNat ⟨parameter, s, hgiven, hsingle, hdenotes⟩)
      | error error =>
          rw [Level.controlValue, hread, hreads.eq_error hread]
          rfl

/-- The value of a control is one that it yields, where the errors that are found at the control are
those of reading it. -/
theorem yields_controlValue (hreads : Level.ReadsNumber permitted problem read)
    (herrors : ∀ parameter, visit.routed.control? control = some parameter →
      plan.errors.filter (·.isAbout parameter.trace) =
        (Level.controlValue (visit.routed.control? control) default read).2) :
    visit.Yields plan control permitted default problem
      (Level.controlValue (visit.routed.control? control) default read).1 where
  value := by
    by_cases hsome : ∃ n, visit.Counts control n ∧ permitted n
    · obtain ⟨n, hcounts, hpermitted⟩ := hsome
      rw [controlValue_of_counts hreads hcounts hpermitted,
        UInt32.toNat_ofNat_of_lt' (hreads.fits n hpermitted)]
      exact .inl ⟨hcounts, hpermitted⟩
    · have hnone : ∀ n, visit.Counts control n → ¬permitted n :=
        fun n hcounts hpermitted => hsome ⟨n, hcounts, hpermitted⟩
      rw [controlValue_of_not_counts hreads hnone]
      exact .inr ⟨rfl, hnone⟩
  accepted := by
    intro parameter n hgiven hcounts hpermitted
    rw [herrors parameter hgiven, controlValue_of_counts hreads hcounts hpermitted]
  rejected := by
    intro parameter hgiven hnone
    rw [herrors parameter hgiven, controlValue_of_not_counts hreads hnone, hgiven]
    rfl

section Limits

variable {max n : UInt32}

theorem controlErrors_limit (hpaged : visit.capability.paged = true) :
    visit.controlErrors .limit = (Level.controlValue (visit.routed.control? .limit)
      visit.capability.defaultLimit (Level.readLimit visit.capability.maxLimit)).2 := by
  rw [controlErrors, Level.limit_of_paged hpaged]
  rfl

theorem controlErrors_offset (hpaged : visit.capability.paged = true) :
    visit.controlErrors .offset =
      (Level.controlValue (visit.routed.control? .offset) 0 Level.readOffset).2 := by
  rw [controlErrors, Level.offset_of_paged hpaged]
  rfl

/-- The limit is never above the largest one permitted. -/
theorem Yields.limit_le (hdefault : default ≤ max)
    (hyields : visit.Yields plan .limit (fun n => 1 ≤ n ∧ n ≤ max.toNat) default problem n) :
    n ≤ max := by
  rcases hyields.value with ⟨-, -, hle⟩ | ⟨rfl, -⟩
  · exact UInt32.le_iff_toNat_le.2 hle
  · exact hdefault

/-- The limit is zero only by default. -/
theorem Yields.limit_eq_zero_iff
    (hyields : visit.Yields plan .limit (fun n => 1 ≤ n ∧ n ≤ max.toNat) default problem n) :
    n = 0 ↔ default = 0 ∧ ∀ k, visit.Counts .limit k → ¬(1 ≤ k ∧ k ≤ max.toNat) := by
  rcases hyields.value with ⟨hcounts, hpermitted⟩ | ⟨rfl, hnone⟩
  · constructor
    · rintro rfl
      exact absurd hpermitted.1 (by decide)
    · rintro ⟨-, hnone⟩
      exact absurd hpermitted (hnone n.toNat hcounts)
  · exact ⟨fun hzero => ⟨hzero, hnone⟩, And.left⟩

end Limits

theorem isRefusal_of_mem_controlValue (hreads : Level.ReadsNumber permitted problem read)
    {error : RequestError}
    (herror : error ∈ (Level.controlValue (visit.routed.control? control) default read).2) :
    error.problem.isRefusal = false := by
  obtain ⟨parameter, -, hfailure⟩ := Level.mem_controlValue.1 herror
  rw [hreads.eq_error hfailure, Parameter.error, Level.numberProblem]
  split
  · rfl
  · exact hreads.about

end Visit

/-! ## Plans of requests -/

theorem Catalog.Sound.yields_controlValue {catalog : Catalog} (hsound : catalog.Sound)
    {resource : String} {target : Target} {params : Params} {plan node : Plan}
    {path : List String} {visit : Visit} {control : Control} {permitted : Nat → Prop}
    {problem : Problem} {default : UInt32} {read : Parameter → Except RequestError UInt32}
    (hplan : catalog.plan resource target params = .ok plan) (hnode : plan.along? path = some node)
    (hvisit : catalog.visit? resource target params path = some visit)
    (hreads : Level.ReadsNumber permitted problem read)
    (herrors : visit.controlErrors control =
      (Level.controlValue (visit.routed.control? control) default read).2) :
    visit.Yields plan control permitted default problem
      (Level.controlValue (visit.routed.control? control) default read).1 := by
  refine Visit.yields_controlValue hreads fun parameter hgiven => ?_
  rw [← herrors]
  refine hsound.errors_about hplan hnode hvisit hgiven fun error herror => ?_
  rw [herrors] at herror
  exact Visit.isRefusal_of_mem_controlValue hreads herror

/-- A node that is paged has the limit and the offset that its controls give, where a limit is
permitted if it is between one and the largest one, and an offset if it has 32 bits; a node that
is not paged has neither.  No limit is too large, and a limit is zero only if the declared one is
and no permitted one is asked for. -/
theorem Document.plan_pages {document : Document} {catalog : Catalog}
    (hresolve : document.resolve = .ok catalog) {resource : String} {target : Target}
    {params : Params} {plan node : Plan} {path : List String}
    (hplan : catalog.plan resource target params = .ok plan)
    (hnode : plan.along? path = some node) :
    ∃ visit, catalog.visit? resource target params path = some visit ∧
      visit.level.trace = Text.join '.' (resource :: path) ∧
      visit.level.capability = .ok (node.referrer, visit.capability) ∧
      (visit.capability.paged = false → node.limit = none ∧ node.offset = none) ∧
      (visit.capability.paged = true → ∃ limit offset, node.limit = some limit ∧
        node.offset = some offset ∧
        visit.Yields plan .limit (fun n => 1 ≤ n ∧ n ≤ visit.capability.maxLimit.toNat)
          visit.capability.defaultLimit (.invalidLimit visit.capability.maxLimit) limit ∧
        visit.Yields plan .offset (fun n => n < UInt32.size) 0 .invalidOffset offset ∧
        limit ≤ visit.capability.maxLimit ∧
        (limit = 0 ↔ visit.capability.defaultLimit = 0 ∧
          ∀ n, visit.Counts .limit n → ¬(1 ≤ n ∧ n ≤ visit.capability.maxLimit.toNat))) := by
  have hsound := sound_of_resolve hresolve
  obtain ⟨visit, depthErrors, relations, hvisit, htrace, hheld, hcapability, heq⟩ :=
    hsound.exists_node hplan hnode
  have hlimit : node.limit = (Level.limit visit.capability visit.routed).1 :=
    congrArg (·.limit) heq
  have hoffset : node.offset = (Level.offset visit.capability visit.routed).1 :=
    congrArg (·.offset) heq
  refine ⟨visit, hvisit, htrace, hcapability, fun hoff => ?_, fun hpaged => ?_⟩
  · rw [hlimit, hoffset, Level.limit, Level.offset, if_neg (by simp [hoff]),
      if_neg (by simp [hoff])]
    exact ⟨rfl, rfl⟩
  have hlimitYields := hsound.yields_controlValue hplan hnode hvisit
    (Level.readsNumber_limit visit.capability.maxLimit)
    (Visit.controlErrors_limit hpaged)
  have hoffsetYields := hsound.yields_controlValue hplan hnode hvisit Level.readsNumber_offset
    (Visit.controlErrors_offset hpaged)
  rw [Level.limit_of_paged hpaged] at hlimit
  rw [Level.offset_of_paged hpaged] at hoffset
  have hlimits := hheld.limits_of_capability hresolve hcapability hpaged
  exact ⟨_, _, hlimit, hoffset, hlimitYields, hoffsetYields, hlimitYields.limit_le hlimits.2,
    hlimitYields.limit_eq_zero_iff⟩

namespace Sample

/-- Areas with their cabins, which come in pages of at most fifty. -/
def paged (defaultLimit : UInt32) : Document :=
  { resources :=
      [ { name := "area"
          table := "areas"
          fields := .ofList [("id", .uuid)]
          relations := .ofList [("cabins", ⟨"cabin", .toMany, "id", "area_id", none⟩)]
          capabilities := .ofList
            [("default", { fullFields := ["id"], defaultRelations := ["cabins"] })] },
        { name := "cabin"
          table := "cabins"
          fields := .ofList [("id", .uuid), ("area_id", .uuid)]
          capabilities := .ofList
            [("default", { page := some { defaultLimit }, fullFields := ["id"] })] } ] }

def pagedCatalog (defaultLimit : UInt32) : Catalog :=
  (paged defaultLimit).resolve.toOption.getD {}

/-- Seven cabins of each area, from nowhere on. -/
def pagedRequest : Params :=
  ⟨.ofList [("cabins.limit", .string " 007 "), ("cabins.offset", .string "x")]⟩

end Sample

/-- The limit that is asked for is permitted, and the offset is no number. -/
theorem plan_pages_cabins :
    ∃ plan node limit,
      (Sample.pagedCatalog 10).plan "area" .list Sample.pagedRequest = .ok plan ∧
      plan.along? ["cabins"] = some node ∧ node.limit = some limit ∧ limit ≠ 0 ∧ limit ≤ 50 ∧
      node.offset = some 0 ∧
      plan.errors.filter (·.isAbout "area.cabins.offset") =
        [⟨"area.cabins.offset", .invalidOffset⟩] := by
  have hresolve : (Sample.paged 10).resolve = .ok (Sample.pagedCatalog 10) :=
    eq_ok_of_isOk {} (by decide +kernel)
  have hplan : (Sample.pagedCatalog 10).plan "area" .list Sample.pagedRequest =
      .ok (((Sample.pagedCatalog 10).plan "area" .list Sample.pagedRequest).toOption.getD
        default) := eq_ok_of_isOk default (by decide +kernel)
  obtain ⟨node, hnode⟩ : ∃ node, (((Sample.pagedCatalog 10).plan "area" .list
      Sample.pagedRequest).toOption.getD default).along? ["cabins"] = some node :=
    Option.isSome_iff_exists.1 (by decide +kernel)
  obtain ⟨visit, hvisit, -, -, -, hpaged⟩ := Document.plan_pages hresolve hplan hnode
  have hfacts : ((Sample.pagedCatalog 10).visit? "area" .list Sample.pagedRequest
      ["cabins"]).map (fun visit => (visit.capability.paged, visit.capability.defaultLimit,
        visit.capability.maxLimit, (visit.routed.control? .offset).map fun parameter =>
          (parameter.trace, parameter.value))) =
      some (true, 10, 50, some ("area.cabins.offset", .text "x")) := by decide +kernel
  rw [hvisit, Option.map_some] at hfacts
  simp only [Option.some.injEq, Prod.mk.injEq, Option.map_eq_some_iff] at hfacts
  obtain ⟨htrue, hdefault, hmax, parameter, hgiven, htrace, hvalue⟩ := hfacts
  obtain ⟨limit, offset, hlimit, hoffset, -, hyields, hle, hzero⟩ := hpaged htrue
  have hnone : ∀ n, visit.Counts .offset n → ¬n < UInt32.size := by
    rintro n ⟨other, s, hother, hsingle, hdenotes⟩
    obtain rfl := Option.some.inj (hgiven.symm.trans hother)
    rw [hvalue] at hsingle
    obtain rfl := Option.some.inj hsingle
    exact absurd (hdenotes.digits 'x' (by decide)) (by decide)
  have herrors := hyields.rejected parameter hgiven hnone
  rcases hyields.value with ⟨hcounts, hpermitted⟩ | ⟨rfl, -⟩
  · exact absurd hpermitted (hnone _ hcounts)
  rw [hdefault] at hzero
  refine ⟨_, node, limit, hplan, hnode, hlimit, fun h => absurd (hzero.1 h).1 (by decide),
    hmax ▸ hle, hoffset, ?_⟩
  rw [← htrace, herrors, Level.numberProblem, hvalue]
  rfl

/-- Cabins come in pages of none for callers who ask for no limit, if that is what is declared. -/
theorem plan_pages_zero :
    (Sample.paged 0).resolve = .ok (Sample.pagedCatalog 0) ∧
      ∃ visit plan, (Sample.pagedCatalog 0).visit? "cabin" .list {} [] = some visit ∧
        visit.capability.paged = true ∧
        (Sample.pagedCatalog 0).plan "cabin" .list {} = .ok plan ∧ plan.errors = [] ∧
        ¬∃ limit, plan.limit = some limit ∧ 1 ≤ limit ∧ limit ≤ visit.capability.maxLimit := by
  have hfacts : (Sample.paged 0).resolve.isOk = true ∧
      ((Sample.pagedCatalog 0).plan "cabin" .list {}).isOk = true ∧
      (((Sample.pagedCatalog 0).plan "cabin" .list {}).toOption.getD default).errors = [] ∧
      (((Sample.pagedCatalog 0).plan "cabin" .list {}).toOption.getD default).limit = some 0 ∧
      ((Sample.pagedCatalog 0).visit? "cabin" .list {} []).map (·.capability.paged) =
        some true := by decide +kernel
  obtain ⟨hresolve, hplan, herrors, hlimit, hvisit⟩ := hfacts
  obtain ⟨visit, hvisit, hpaged⟩ := Option.map_eq_some_iff.1 hvisit
  refine ⟨eq_ok_of_isOk _ hresolve, visit, _, hvisit, hpaged, eq_ok_of_isOk _ hplan, herrors, ?_⟩
  rintro ⟨limit, hsome, hone, -⟩
  obtain rfl := Option.some.inj (hlimit.symm.trans hsome)
  exact absurd hone (by decide)

end RestQuery
