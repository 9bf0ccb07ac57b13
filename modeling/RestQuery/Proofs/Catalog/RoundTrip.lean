import RestQuery.Catalog.Reader
import RestQuery.Catalog.Writer
import RestQuery.Proofs.Json.Parsing
import RestQuery.Proofs.Outcome

/-!
# Documents are read back

A catalog document is the same after it was written and read again, from its text or from the
values of its resources.  Readers and writers are matched from the parts up: a reader recovers
what a writer writes of texts, truth values, numbers and kinds, then of lists, tables and
optional parts, then of each declaration.

Main statement: `Document.round_trip`.
-/

namespace RestQuery

open Json (Raw)

variable {α : Type}

/-! ## Readers and writers -/

/-- What is written is plain, and is read as the thing that was written. -/
structure Recovers (read : Raw → Option α) (write : α → Json) : Prop where
  plain (a : α) : (write a).Plain
  read_toRaw (a : α) : read (write a).toRaw = some a

theorem recovers_text : Recovers Raw.text? .string where
  plain _ := List.forall_mem_singleton.2 rfl
  read_toRaw _ := rfl

theorem recovers_bool : Recovers Raw.bool? .bool where
  plain _ := List.forall_mem_singleton.2 trivial
  read_toRaw _ := rfl

theorem recovers_word : Recovers Raw.word? .word where
  plain n := by
    have hlow : Int64.minValue.toInt ≤ 0 := by decide
    have hhigh : n.toNat < UInt64.size := Nat.lt_trans n.toNat_lt (by decide)
    have hfits : Json.Number.Fits n.toNat := ⟨by omega, Int.ofNat_lt.2 hhigh⟩
    exact List.forall_mem_singleton.2 ⟨n.toNat, hfits, rfl⟩
  read_toRaw n := by
    have hbound : (0 : Int) ≤ n.toNat ∧ (n.toNat : Int) < UInt32.size :=
      ⟨Int.natCast_nonneg _, Int.ofNat_lt.2 n.toNat_lt⟩
    rw [Json.word, Json.int, Json.toRaw, Raw.word?, if_pos hbound, Int.toNat_natCast,
      UInt32.ofNat_toNat]

/-- A kind is found by its name. -/
theorem recovers_kind {ofName? : String → Option α} {name : α → String}
    (hname : ∀ a, ofName? (name a) = some a) :
    Recovers (Raw.kind? ofName?) fun a => .string (name a) where
  plain _ := List.forall_mem_singleton.2 rfl
  read_toRaw := hname

namespace Recovers

variable {read : Raw → Option α} {write : α → Json}

/-- A list is read back if its items are. -/
theorem list (hrecovers : Recovers read write) :
    Recovers (Raw.list? read) fun items => .array (items.map write) where
  plain items := Json.plain_array (List.forall_mem_map.2 fun item _ => hrecovers.plain item)
  read_toRaw items := by
    rw [Json.toRaw, Json.toRaws_eq, List.map_map, Raw.list?]
    exact mapM_map_eq_some hrecovers.read_toRaw items

/-- A table is read back if its values are. -/
theorem table (hrecovers : Recovers read write) :
    Recovers (Raw.table? read) (.ofTable write) where
  plain table := Json.plain_object
    (List.forall_mem_map.2 fun entry _ => hrecovers.plain entry.2)
  read_toRaw table := by
    have hentries : (table.entries.map fun entry => (some entry.1, (write entry.2).toRaw)).mapM
        (fun member => do
          let key ← member.1
          let value ← read member.2
          return (key, value)) = some table.entries := by
      refine mapM_map_eq_some (fun entry => ?_) table.entries
      simp [hrecovers.read_toRaw]
    simp only [Json.ofTable, Json.toRaw, Json.toRawMembers_eq, List.map_map, Function.comp_def,
      Raw.table?, hentries]
    rw [Option.bind_eq_bind, Option.bind_some, Table.ofList_entries]
    rfl

theorem nullable?_of_ne_null {raw : Raw} (hne : raw ≠ .null) :
    raw.nullable? read = (read raw).map some := by
  cases raw with
  | null => exact absurd rfl hne
  | _ => rfl

/-- Null is kept for what is not there: no thing is written as null. -/
theorem nullable (hrecovers : Recovers read write) (hnull : ∀ a, (write a).toRaw ≠ .null) :
    Recovers (Raw.nullable? read) (.orNull write) where
  plain
    | some a => hrecovers.plain a
    | none => List.forall_mem_singleton.2 trivial
  read_toRaw
    | some a => by
      rw [Json.orNull, nullable?_of_ne_null (hnull a), hrecovers.read_toRaw, Option.map_some]
    | none => rfl

end Recovers

/-! ## Members of records -/

/-- A record is read off an object whose keys are distinct names of its members. -/
theorem record?_object_bind {names : List String} {members : List (String × Json)}
    {build : List (String × Raw) → Option α} (hnames : ∀ member ∈ members, member.1 ∈ names)
    (hdistinct : (members.map Prod.fst).Nodup) :
    (Raw.record? names (Json.object members).toRaw >>= build) =
      build (members.map fun member => (member.1, member.2.toRaw)) := by
  have hnamed : (members.map fun member => (some member.1, member.2.toRaw)).mapM
      (fun member : Option String × Raw => member.1.map (·, member.2)) =
        some (members.map fun member => (member.1, member.2.toRaw)) := by
    rw [mapM_eq_some_iff, List.forall₂_map_left_iff, List.forall₂_map_right_iff, List.forall₂_same]
    exact fun _ _ => rfl
  have hknown : (members.map fun member => (member.1, member.2.toRaw)).filter
      (names.contains ·.1) = members.map fun member => (member.1, member.2.toRaw) := by
    rw [List.filter_eq_self, List.forall_mem_map]
    exact fun member hmem => List.contains_iff_mem.2 (hnames member hmem)
  have hkeys : ((members.map fun member => (member.1, member.2.toRaw)).map Prod.fst).Nodup := by
    rwa [List.map_map]
  simp only [Json.toRaw, Json.toRawMembers_eq, Raw.record?, hnamed, Option.bind_eq_bind,
    Option.bind_some, hknown, if_pos hkeys]

/-! ## Declarations -/

theorem recovers_fieldType : Recovers (Raw.kind? FieldType.ofName?) FieldType.toJson :=
  recovers_kind FieldType.ofName?_name

theorem recovers_relationKind :
    Recovers (Raw.kind? RelationKind.ofName?) fun kind => .string kind.name :=
  recovers_kind RelationKind.ofName?_name

theorem recovers_texts : Recovers (Raw.list? Raw.text?) Json.strings := recovers_text.list

theorem recovers_operators : Recovers (Raw.list? (Raw.kind? Operator.ofName?))
    fun operators => .strings (operators.map Operator.name) := by
  have hrecovers := (recovers_kind Operator.ofName?_name).list
  simpa only [Json.strings, List.map_map, Function.comp_def] using hrecovers

theorem LinkTable.recovers : Recovers LinkTable.read? LinkTable.toJson where
  plain link := by
    refine Json.plain_object ?_
    simp [recovers_text.plain, recovers_texts.plain, recovers_fieldType.table.plain]
  read_toRaw link := by
    rw [LinkTable.read?, LinkTable.toJson, record?_object_bind (by simp) (by simp)]
    simp only [required, optional, List.map, List.lookup_cons, String.reduceBEq, Option.bind_some,
      recovers_text.read_toRaw, recovers_texts.read_toRaw, recovers_fieldType.table.read_toRaw]
    rfl

theorem LinkTable.recovers_orNull :
    Recovers (Raw.nullable? LinkTable.read?) (.orNull LinkTable.toJson) :=
  LinkTable.recovers.nullable fun _ => nofun

theorem RelationDecl.recovers : Recovers RelationDecl.read? RelationDecl.toJson where
  plain relation := by
    refine Json.plain_object ?_
    simp [recovers_text.plain, LinkTable.recovers_orNull.plain]
  read_toRaw relation := by
    rw [RelationDecl.read?, RelationDecl.toJson, record?_object_bind (by simp) (by simp)]
    simp only [required, optional, List.map, List.lookup_cons, String.reduceBEq, Option.bind_some,
      recovers_text.read_toRaw, recovers_relationKind.read_toRaw,
      LinkTable.recovers_orNull.read_toRaw]
    rfl

theorem PageDecl.recovers : Recovers PageDecl.read? PageDecl.toJson where
  plain page := by
    refine Json.plain_object ?_
    simp [recovers_bool.plain, recovers_word.plain]
  read_toRaw page := by
    rw [PageDecl.read?, PageDecl.toJson, record?_object_bind (by simp) (by simp)]
    simp only [optional, List.map, List.lookup_cons, String.reduceBEq, recovers_bool.read_toRaw,
      recovers_word.read_toRaw]
    rfl

theorem PageDecl.recovers_orNull :
    Recovers (Raw.nullable? PageDecl.read?) (.orNull PageDecl.toJson) :=
  PageDecl.recovers.nullable fun _ => nofun

theorem OrderDecl.recovers : Recovers OrderDecl.read? OrderDecl.toJson where
  plain order := by
    refine Json.plain_object ?_
    simp [recovers_bool.plain, recovers_texts.plain]
  read_toRaw order := by
    rw [OrderDecl.read?, OrderDecl.toJson, record?_object_bind (by simp) (by simp)]
    simp only [optional, List.map, List.lookup_cons, String.reduceBEq, recovers_bool.read_toRaw,
      recovers_texts.read_toRaw]
    rfl

theorem OrderDecl.recovers_orNull :
    Recovers (Raw.nullable? OrderDecl.read?) (.orNull OrderDecl.toJson) :=
  OrderDecl.recovers.nullable fun _ => nofun

theorem FilterDecl.recovers : Recovers FilterDecl.read? FilterDecl.toJson where
  plain filter := by
    refine Json.plain_object ?_
    simp [(recovers_operators.nullable fun _ => nofun).plain]
  read_toRaw filter := by
    rw [FilterDecl.read?, FilterDecl.toJson, record?_object_bind (by simp) (by simp)]
    simp only [optional, List.map, List.lookup_cons, String.reduceBEq,
      (recovers_operators.nullable fun _ => nofun).read_toRaw]
    rfl

theorem CapabilityDecl.recovers : Recovers CapabilityDecl.read? CapabilityDecl.toJson where
  plain capability := by
    refine Json.plain_object ?_
    simp [recovers_bool.plain, recovers_texts.plain, FilterDecl.recovers.table.plain,
      PageDecl.recovers_orNull.plain, OrderDecl.recovers_orNull.plain]
  read_toRaw capability := by
    rw [CapabilityDecl.read?, CapabilityDecl.toJson, record?_object_bind (by simp) (by simp)]
    simp only [optional, List.map, List.lookup_cons, String.reduceBEq, recovers_bool.read_toRaw,
      recovers_texts.read_toRaw, FilterDecl.recovers.table.read_toRaw,
      PageDecl.recovers_orNull.read_toRaw, OrderDecl.recovers_orNull.read_toRaw]
    rfl

theorem ResourceDecl.recovers : Recovers ResourceDecl.read? ResourceDecl.toJson where
  plain resource := by
    refine Json.plain_object ?_
    simp [recovers_text.plain, recovers_fieldType.table.plain, RelationDecl.recovers.table.plain,
      CapabilityDecl.recovers.table.plain]
  read_toRaw resource := by
    rw [ResourceDecl.read?, ResourceDecl.toJson, record?_object_bind (by simp) (by simp)]
    simp only [required, optional, List.map, List.lookup_cons, String.reduceBEq, Option.bind_some,
      recovers_text.read_toRaw, recovers_fieldType.table.read_toRaw,
      RelationDecl.recovers.table.read_toRaw, CapabilityDecl.recovers.table.read_toRaw]
    rfl

namespace Document

theorem recovers : Recovers read? toJson where
  plain document := by
    refine Json.plain_object ?_
    simp [ResourceDecl.recovers.list.plain]
  read_toRaw document := by
    rw [read?, toJson, record?_object_bind (by simp) (by simp)]
    simp only [optional, List.map, List.lookup_cons, String.reduceBEq,
      ResourceDecl.recovers.list.read_toRaw]
    rfl

/-! ## Texts and payloads -/

/-- A document is read back from its text. -/
theorem ofText_text (document : Document) : ofText document.toJson.text = .ok document := by
  rw [ofText, (recovers.plain document).read?_text, Option.bind_some,
    recovers.read_toRaw document]

/-- The resources of a document are read back one by one. -/
theorem ofPayloads_map (resources : List ResourceDecl) :
    ofPayloads (resources.map ResourceDecl.toJson) = .ok ⟨resources⟩ := by
  rw [ofPayloads, mapM_map_eq_some (fun resource => ?_) resources]
  exact ResourceDecl.recovers.read_toRaw resource

/-- What is written of a document has a text that denotes just that; from the text the document
is read back, and from the resources in it one by one, too. -/
theorem round_trip (document : Document) :
    Raw.read? document.toJson.text = some document.toJson.toRaw ∧
      ofText document.toJson.text = .ok document ∧
      ∃ payloads, document.toJson = .object [("resources", .array payloads)] ∧
        ofPayloads payloads = .ok document := by
  refine ⟨(recovers.plain document).read?_text, document.ofText_text,
    document.resources.map ResourceDecl.toJson, ?_, ofPayloads_map document.resources⟩
  rw [toJson]

end Document

end RestQuery
