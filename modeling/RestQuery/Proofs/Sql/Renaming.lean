import RestQuery.Proofs.Sql.Lexemes
import RestQuery.Proofs.Sql.Placeholders

/-!
# Statements with other names

The names in a statement are those of schemas, tables, columns and outputs, which it quotes, and
those of relations in the names by which it refers to tables, which it does not.  With other names
of the first kind, exactly the quoted names in its text are other ones.

Main statement: `Select.lexemes_renamed`.
-/

namespace RestQuery.Sql

/-! ## The tables that a statement refers to -/

/-- The relations in the name by which a statement refers to a table. -/
def Alias.relations : Alias → List String
  | level _ => []
  | link table => table.relations
  | join table relation => table.relations ++ [relation]

def Source.tables (source : Source) : List Alias :=
  source.name :: match source.link with
    | some link => [link.on.1.table, link.on.2.table]
    | none => []

mutual

def Condition.tables : Condition → List Alias
  | .isKey column => [column.table]
  | .correlation inner outer => [inner.table, outer.table]
  | .test _ column _ => (column.map Column.table).toList
  | .group _ parts => Condition.tablesAll parts
  | .related _ source conditions => source.tables ++ Condition.tablesAll conditions

def Condition.tablesAll : List Condition → List Alias
  | [] => []
  | condition :: rest => condition.tables ++ Condition.tablesAll rest

end

mutual

def Select.tables : Select → List Alias
  | ⟨outputs, relations, source, conditions, order, _, _⟩ =>
    outputs.map (·.column.table) ++ Select.tablesBelow relations ++ source.tables
      ++ Condition.tablesAll conditions ++ order.map (·.1.table)

def Select.tablesBelow : List (String × RelationKind × Select) → List Alias
  | [] => []
  | (_, _, select) :: rest => select.tables ++ Select.tablesBelow rest

end

theorem tablesAll_eq_flatMap (conditions : List Condition) :
    Condition.tablesAll conditions = conditions.flatMap Condition.tables := by
  induction conditions with
  | nil => rfl
  | cons condition rest ih => rw [Condition.tablesAll, ih, List.flatMap_cons]

theorem tablesAll_append (first second : List Condition) :
    Condition.tablesAll (first ++ second) =
      Condition.tablesAll first ++ Condition.tablesAll second := by
  simp only [tablesAll_eq_flatMap, List.flatMap_append]

theorem tablesBelow_eq_flatMap (relations : List (String × RelationKind × Select)) :
    Select.tablesBelow relations = relations.flatMap fun entry => entry.2.2.tables := by
  induction relations with
  | nil => rfl
  | cons entry rest ih => rw [Select.tablesBelow, ih, List.flatMap_cons]

/-! ## Other names -/

section

variable (names relations : String → String)

def Alias.renamed : Alias → Alias
  | level depth => level depth
  | link table => link table.renamed
  | join table relation => join table.renamed (relations relation)

def Column.renamed (column : Column) : Column :=
  ⟨column.table.renamed relations, names column.name⟩

def LinkSource.renamed (link : LinkSource) : LinkSource :=
  { schema := names link.schema
    table := names link.table
    on := (link.on.1.renamed names relations, link.on.2.renamed names relations) }

def Source.renamed (source : Source) : Source :=
  { schema := names source.schema
    table := names source.table
    name := source.name.renamed relations
    link := source.link.map (LinkSource.renamed names relations) }

mutual

def Condition.renamed : Condition → Condition
  | .isKey column => .isKey (column.renamed names relations)
  | .correlation inner outer =>
    .correlation (inner.renamed names relations) (outer.renamed names relations)
  | .test check column operands =>
    .test check (column.map (Column.renamed names relations)) operands
  | .group connective parts => .group connective (Condition.renamedAll parts)
  | .related join source conditions =>
    .related join (source.renamed names relations) (Condition.renamedAll conditions)

def Condition.renamedAll : List Condition → List Condition
  | [] => []
  | condition :: rest => condition.renamed :: Condition.renamedAll rest

end

def Output.renamed (output : Output) : Output :=
  ⟨output.column.renamed names relations, output.shape, names output.name⟩

mutual

/-- A selection with other names, all of them but those in aliases by one function and those in
aliases by another one. -/
def Select.renamed : Select → Select
  | ⟨outputs, below, source, conditions, order, limit, offset⟩ =>
    { outputs := outputs.map (Output.renamed names relations)
      relations := Select.renamedBelow below
      source := source.renamed names relations
      conditions := Condition.renamedAll names relations conditions
      order := order.map fun key => (key.1.renamed names relations, key.2)
      limit
      offset }

def Select.renamedBelow :
    List (String × RelationKind × Select) → List (String × RelationKind × Select)
  | [] => []
  | (name, kind, select) :: rest => (names name, kind, select.renamed) :: Select.renamedBelow rest

end

end

theorem renamedAll_eq_map (names relations : String → String) (conditions : List Condition) :
    Condition.renamedAll names relations conditions =
      conditions.map (Condition.renamed names relations) := by
  induction conditions with
  | nil => rfl
  | cons condition rest ih => rw [Condition.renamedAll, ih, List.map_cons]

def Piece.renamed (names : String → String) : Piece → Piece
  | text s => text s
  | name s => name (names s)
  | value v => value v
  | key => key

def Lexeme.renamed (names : String → String) : Lexeme → Lexeme
  | char c => char c
  | identifier name => identifier (names name)
  | unclosed name => unclosed name

/-! ## Pieces with other names -/

section

variable {names relations : String → String}

theorem Alias.renamed_eq_self {table : Alias}
    (hfixed : ∀ name ∈ table.relations, relations name = name) :
    table.renamed relations = table := by
  induction table with
  | level depth => rfl
  | link table ih => rw [renamed, ih hfixed]
  | join table name ih =>
      obtain ⟨htable, hname⟩ := List.forall_mem_append.1 hfixed
      rw [renamed, ih htable, hname name List.mem_cons_self]

@[simp]
theorem renamed_text (s : String) : (Piece.text s).renamed names = .text s := rfl

@[simp]
theorem renamed_name (s : String) : (Piece.name s).renamed names = .name (names s) := rfl

theorem pieces_renamed_column {column : Column}
    (hfixed : column.table.renamed relations = column.table) :
    (column.renamed names relations).pieces = column.pieces.map (Piece.renamed names) := by
  simp [Column.renamed, Column.pieces, hfixed]

theorem pieces_renamed_source {source : Source}
    (hfixed : ∀ table ∈ source.tables, table.renamed relations = table) :
    (source.renamed names relations).pieces = source.pieces.map (Piece.renamed names) := by
  obtain ⟨schema, table, name, link⟩ := source
  obtain ⟨hname, hlink⟩ := List.forall_mem_cons.1 hfixed
  cases link with
  | none => simp [Source.renamed, Source.pieces, tablePieces, hname]
  | some link =>
      obtain ⟨hinner, houter⟩ := List.forall_mem_cons.1 hlink
      have hjoined : (link.on.1.renamed names relations).table = link.on.1.table := hinner
      simp [Source.renamed, Source.pieces, LinkSource.renamed, tablePieces, hname, hjoined,
        pieces_renamed_column hinner, pieces_renamed_column (houter _ List.mem_cons_self)]

theorem pieces_renamed_operand (operands : List Operand) (place : Nat) :
    (operandPieces operands place).map (Piece.renamed names) = operandPieces operands place := by
  rw [operandPieces]
  cases operands[place]? <;> rfl

theorem pieces_renamed_members (operands : List Operand) :
    (separated ", " (operands.map fun operand => [.value (.ofOperand operand)])).map
        (Piece.renamed names) =
      separated ", " (operands.map fun operand => [.value (.ofOperand operand)]) := by
  rw [map_separated rfl, List.map_map]
  rfl

theorem pieces_renamed_check (check : Check) (column : List Piece) (operands : List Operand) :
    checkPieces check (column.map (Piece.renamed names)) operands =
      (checkPieces check column operands).map (Piece.renamed names) := by
  cases check with
  | inSet | notInSet =>
      simp only [checkPieces]
      split
      · rfl
      · simp [pieces_renamed_members]
  | _ => simp [checkPieces, pieces_renamed_operand, Piece.renamed]

mutual

/-- Conditions are written with other names as they are renamed, if tables keep theirs. -/
theorem pieces_renamed_condition : ∀ {condition : Condition},
    (∀ table ∈ condition.tables, table.renamed relations = table) →
      (condition.renamed names relations).pieces = condition.pieces.map (Piece.renamed names)
  | .isKey column, hfixed => by
      rw [Condition.renamed, Condition.pieces, Condition.pieces,
        pieces_renamed_column (hfixed _ List.mem_cons_self)]
      simp [Piece.renamed]
  | .correlation inner outer, hfixed => by
      obtain ⟨hinner, houter⟩ := List.forall_mem_cons.1 hfixed
      rw [Condition.renamed, Condition.pieces, Condition.pieces, pieces_renamed_column hinner,
        pieces_renamed_column (houter _ List.mem_cons_self)]
      simp
  | .test check column operands, hfixed => by
      rw [Condition.renamed, Condition.pieces, Condition.pieces, ← pieces_renamed_check]
      congr 1
      cases column with
      | none => rfl
      | some column => exact pieces_renamed_column (hfixed _ List.mem_cons_self)
  | .group connective parts, hfixed => by
      have hparts : Condition.pieceLists (Condition.renamedAll names relations parts) =
          (Condition.pieceLists parts).map (List.map (Piece.renamed names)) :=
        pieces_renamed_conditions hfixed
      simp [Condition.renamed, Condition.pieces, map_separated (renamed_text _), hparts]
  | .related join source conditions, hfixed => by
      obtain ⟨hsource, hconditions⟩ := List.forall_mem_append.1 hfixed
      have hparts := pieces_renamed_conditions hconditions
      simp [Condition.renamed, Condition.pieces, map_separated (renamed_text _), hparts,
        pieces_renamed_source hsource]

theorem pieces_renamed_conditions : ∀ {conditions : List Condition},
    (∀ table ∈ Condition.tablesAll conditions, table.renamed relations = table) →
      Condition.pieceLists (Condition.renamedAll names relations conditions) =
        (Condition.pieceLists conditions).map (List.map (Piece.renamed names))
  | [], _ => rfl
  | condition :: rest, hfixed => by
      obtain ⟨hcondition, hrest⟩ := List.forall_mem_append.1 hfixed
      rw [Condition.renamedAll, Condition.pieceLists, Condition.pieceLists,
        pieces_renamed_condition hcondition, pieces_renamed_conditions hrest, List.map_cons]

end

theorem pieces_renamed_output {output : Output}
    (hfixed : output.column.table.renamed relations = output.column.table) :
    (output.renamed names relations).pieces = output.pieces.map (Piece.renamed names) := by
  rw [Output.renamed, Output.pieces, Output.pieces, pieces_renamed_column hfixed]
  cases output.shape <;> simp

theorem pieces_renamed_order {key : Column × Direction}
    (hfixed : key.1.table.renamed relations = key.1.table) :
    orderPieces (key.1.renamed names relations, key.2) =
      (orderPieces key).map (Piece.renamed names) := by
  rw [orderPieces, orderPieces, pieces_renamed_column hfixed]
  simp

theorem pieces_renamed_count (word : String) (count : Option UInt32) :
    (countPieces word count).map (Piece.renamed names) = countPieces word count := by
  cases count <;> rfl

mutual

/-- Selections are written with other names as they are renamed, if tables keep theirs. -/
theorem pieces_renamed : ∀ {select : Select},
    (∀ table ∈ select.tables, table.renamed relations = table) →
      (select.renamed names relations).pieces = select.pieces.map (Piece.renamed names)
  | ⟨outputs, below, source, conditions, order, limit, offset⟩, hfixed => by
      simp only [Select.tables, List.forall_mem_append, List.forall_mem_map] at hfixed
      obtain ⟨⟨⟨⟨houtputs, hbelow⟩, hsource⟩, hconditions⟩, horder⟩ := hfixed
      have hshown : (outputs.map (Output.renamed names relations)).map Output.pieces =
          (outputs.map Output.pieces).map (List.map (Piece.renamed names)) := by
        rw [List.map_map, List.map_map]
        exact List.map_congr_left fun output hmem => pieces_renamed_output (houtputs output hmem)
      have hordered : (order.map fun key => (key.1.renamed names relations, key.2)).map
            orderPieces =
          (order.map orderPieces).map (List.map (Piece.renamed names)) := by
        rw [List.map_map, List.map_map]
        exact List.map_congr_left fun key hmem => pieces_renamed_order (horder key hmem)
      have hwhere : (Condition.renamedAll names relations conditions).map Condition.pieces =
          (conditions.map Condition.pieces).map (List.map (Piece.renamed names)) := by
        rw [← pieceLists_eq_map, ← pieceLists_eq_map]
        exact pieces_renamed_conditions hconditions
      have hempty : (Condition.renamedAll names relations conditions).isEmpty =
          conditions.isEmpty := by
        rw [renamedAll_eq_map, List.isEmpty_map]
      simp only [Select.renamed, Select.pieces, List.map_append, hshown, hordered, hwhere, hempty,
        pieces_renamed_below hbelow, pieces_renamed_source hsource, pieces_renamed_count,
        map_separated (renamed_text _), List.map_cons, List.map_nil, renamed_text]
      split
      · rfl
      · simp only [List.map_append, map_separated (renamed_text _), List.map_cons, List.map_nil,
          renamed_text]

theorem pieces_renamed_below : ∀ {below : List (String × RelationKind × Select)},
    (∀ table ∈ Select.tablesBelow below, table.renamed relations = table) →
      Select.relationPieces (Select.renamedBelow names relations below) =
        (Select.relationPieces below).map (List.map (Piece.renamed names))
  | [], _ => rfl
  | (name, kind, select) :: rest, hfixed => by
      obtain ⟨hselect, hrest⟩ := List.forall_mem_append.1 hfixed
      rw [Select.renamedBelow, Select.relationPieces, Select.relationPieces,
        pieces_renamed hselect, pieces_renamed_below hrest]
      simp

end

/-! ## Pieces one by one -/

@[simp]
theorem isWord_renamed (piece : Piece) : (piece.renamed names).isWord = piece.isWord := by
  cases piece <;> rfl

@[simp]
theorem isName_renamed (piece : Piece) : (piece.renamed names).isName = piece.isName := by
  cases piece <;> rfl

theorem Spaced.renamed {pieces : List Piece} (hspaced : Spaced pieces) :
    Spaced (pieces.map (Piece.renamed names)) := by
  refine ⟨List.forall_mem_map.2 fun piece hmem => ?_,
    List.isChain_map_of_isChain _ ?_ hspaced.apart⟩
  · rw [isWord_renamed, hspaced.words piece hmem]
  · intro first second hnext
    rwa [isName_renamed, isName_renamed]

/-- Other names change the quoted names of a text and nothing else. -/
theorem lexemesFrom_renamed (next : Nat) (pieces : List Piece) :
    lexemesFrom next (pieces.map (Piece.renamed names)) =
      (lexemesFrom next pieces).map (Lexeme.renamed names) := by
  induction pieces generalizing next with
  | nil => rfl
  | cons piece rest ih =>
      have hchars : ∀ cs : List Char,
          (cs.map Lexeme.char).map (Lexeme.renamed names) = cs.map Lexeme.char := by
        intro cs
        rw [List.map_map]
        rfl
      cases piece with
      | text s => simp only [List.map_cons, renamed_text, lexemesFrom, List.map_append, hchars, ih]
      | name s => simp only [List.map_cons, renamed_name, lexemesFrom, ih, Lexeme.renamed]
      | value v =>
          simp only [List.map_cons, Piece.renamed, lexemesFrom, List.map_append, hchars, ih]
      | key => simp only [List.map_cons, Piece.renamed, lexemesFrom, List.map_append, hchars, ih]

end

/-! ## Statements one by one -/

theorem isUnquoted_of_isPlain {s : String} (hplain : isPlain s = true) : isUnquoted s = true := by
  rw [isPlain, List.all_eq_true] at hplain
  rw [isUnquoted, List.all_eq_true]
  exact fun c hmem => (Bool.and_eq_true_iff.1 (hplain c hmem)).2

theorem isUnquoted_append (first second : String) :
    isUnquoted (first ++ second) = (isUnquoted first && isUnquoted second) := by
  simp [isUnquoted]

/-- The name of a table has no quotes if the relations in it have none. -/
theorem Alias.isUnquoted_text {table : Alias}
    (hunquoted : ∀ name ∈ table.relations, isUnquoted name = true) :
    isUnquoted table.text = true := by
  induction table with
  | level depth => exact isUnquoted_of_isPlain (isPlain_level depth)
  | link table ih =>
      rw [text, isUnquoted_append, ih hunquoted]
      rfl
  | join table name ih =>
      obtain ⟨htable, hname⟩ := List.forall_mem_append.1 hunquoted
      rw [text, isUnquoted_append, isUnquoted_append, ih htable, hname name List.mem_cons_self]
      rfl

theorem isWord_text_alias {table : Alias} (hunquoted : isUnquoted table.text = true) :
    (Piece.text table.text).isWord = true := by
  have hsome : table.text ≠ "" := by
    intro hempty
    have hhead := table.head?_text
    rw [hempty] at hhead
    cases hhead
  simp [Piece.isWord, hunquoted, hsome]

theorem spaced_column {column : Column} (hunquoted : isUnquoted column.table.text = true) :
    Spaced column.pieces := by
  rw [Column.pieces, spaced_text_cons, spaced_text_cons, spaced_singleton]
  exact ⟨isWord_text_alias hunquoted, by decide, rfl⟩

theorem spaced_source {source : Source}
    (hunquoted : ∀ table ∈ source.tables, isUnquoted table.text = true) :
    Spaced source.pieces := by
  obtain ⟨schema, table, name, link⟩ := source
  obtain ⟨hname, hlink⟩ := List.forall_mem_cons.1 hunquoted
  have hword := isWord_text_alias hname
  cases link with
  | none => simpa [Source.pieces, tablePieces, hword] using by decide
  | some link =>
      obtain ⟨hinner, houter⟩ := List.forall_mem_cons.1 hlink
      have hjoined := isWord_text_alias hinner
      have hon := spaced_column hinner
      have hown := spaced_column (houter _ List.mem_cons_self)
      simpa [Source.pieces, tablePieces, hword, hjoined, hon, hown] using by decide

theorem spaced_operand (operands : List Operand) (place : Nat) :
    Spaced (operandPieces operands place) := by
  rw [operandPieces]
  cases operands[place]? with
  | none => exact spaced_singleton.2 (by decide)
  | some operand => exact spaced_singleton.2 rfl

theorem spaced_members (operands : List Operand) :
    Spaced (separated ", " (operands.map fun operand => [.value (.ofOperand operand)])) :=
  spaced_separated (by decide) (List.forall_mem_map.2 fun _ _ => spaced_singleton.2 rfl)

theorem spaced_check (check : Check) {column : List Piece} (hcolumn : Spaced column)
    (operands : List Operand) : Spaced (checkPieces check column operands) := by
  have hoperand := spaced_operand operands
  have hmembers := spaced_members operands
  cases check with
  | inSet | notInSet =>
      simp only [checkPieces]
      split <;> simp [hcolumn, hmembers, Piece.isWord, isUnquoted]
  | _ => simp [checkPieces, hcolumn, hoperand, Piece.isWord, isUnquoted]

mutual

theorem spaced_condition : ∀ {condition : Condition},
    (∀ table ∈ condition.tables, isUnquoted table.text = true) → Spaced condition.pieces
  | .isKey column, hunquoted => by
      have hcolumn := spaced_column (hunquoted _ List.mem_cons_self)
      simp [Condition.pieces, hcolumn, Piece.isWord, isUnquoted]
  | .correlation inner outer, hunquoted => by
      obtain ⟨hinner, houter⟩ := List.forall_mem_cons.1 hunquoted
      have hcolumn := spaced_column (houter _ List.mem_cons_self)
      simp [Condition.pieces, spaced_column hinner, hcolumn, Piece.isWord, isUnquoted]
  | .test check column operands, hunquoted => by
      rw [Condition.pieces]
      apply spaced_check
      cases column with
      | none => exact spaced_nil
      | some column => exact spaced_column (hunquoted _ List.mem_cons_self)
  | .group connective parts, hunquoted => by
      have hbetween : (Piece.text (connectiveText connective)).isWord = true := by
        cases connective <;> decide
      have heach : ∀ part ∈ Condition.pieceLists parts, Spaced part :=
        spaced_conditions hunquoted
      have hparts := spaced_separated hbetween heach
      simp [Condition.pieces, hparts, Piece.isWord, isUnquoted]
  | .related join source conditions, hunquoted => by
      obtain ⟨hsource, hconditions⟩ := List.forall_mem_append.1 hunquoted
      have hparts : Spaced (separated " AND " (Condition.pieceLists conditions)) :=
        spaced_separated (by decide) (spaced_conditions hconditions)
      cases join <;>
        simp [Condition.pieces, spaced_source hsource, hparts, Piece.isWord, isUnquoted]

theorem spaced_conditions : ∀ {conditions : List Condition},
    (∀ table ∈ Condition.tablesAll conditions, isUnquoted table.text = true) →
      ∀ part ∈ Condition.pieceLists conditions, Spaced part
  | [], _ => by simp [Condition.pieceLists]
  | condition :: rest, hunquoted => by
      obtain ⟨hcondition, hrest⟩ := List.forall_mem_append.1 hunquoted
      rw [Condition.pieceLists, List.forall_mem_cons]
      exact ⟨spaced_condition hcondition, spaced_conditions hrest⟩

end

theorem spaced_output {output : Output}
    (hunquoted : isUnquoted output.column.table.text = true) : Spaced output.pieces := by
  have hcolumn := spaced_column hunquoted
  rw [Output.pieces]
  split <;> simp [hcolumn, Piece.isWord, isUnquoted]

theorem spaced_order {key : Column × Direction} (hunquoted : isUnquoted key.1.table.text = true) :
    Spaced (orderPieces key) := by
  have hcolumn := spaced_column hunquoted
  cases hdirection : key.2 <;>
    simp [orderPieces, hcolumn, hdirection, Direction.keyword, Piece.isWord, isUnquoted]

theorem isWord_repr (number : Nat) : (Piece.text (Nat.repr number)).isWord = true := by
  simp [Piece.isWord, isUnquoted_of_isPlain (isPlain_repr number)]

/-- Counts at the end of a selection stand apart from what is before them. -/
theorem spaced_counts {pieces : List Piece} (hspaced : Spaced pieces)
    (limit offset : Option UInt32) :
    Spaced (pieces ++ countPieces " LIMIT " limit ++ countPieces " OFFSET " offset) := by
  cases limit <;> cases offset <;>
    simp [countPieces, hspaced, isWord_repr] <;> decide

mutual

/-- A selection is read piece by piece if the names of its tables have no quotes. -/
theorem spaced_select : ∀ {select : Select},
    (∀ table ∈ select.tables, isUnquoted table.text = true) → Spaced select.pieces
  | ⟨outputs, below, source, conditions, order, limit, offset⟩, hunquoted => by
      simp only [Select.tables, List.forall_mem_append, List.forall_mem_map] at hunquoted
      obtain ⟨⟨⟨⟨houtputs, hbelow⟩, hsource⟩, hconditions⟩, horder⟩ := hunquoted
      have hshown : Spaced (separated ", "
          (outputs.map Output.pieces ++ Select.relationPieces below)) := by
        apply spaced_separated (by decide)
        rw [List.forall_mem_append, List.forall_mem_map]
        exact ⟨fun output hmem => spaced_output (houtputs output hmem), spaced_below hbelow⟩
      have hwhere : Spaced (separated " AND " (conditions.map Condition.pieces)) := by
        rw [← pieceLists_eq_map]
        exact spaced_separated (by decide) (spaced_conditions hconditions)
      have hordered : Spaced (separated ", " (order.map orderPieces)) :=
        spaced_separated (by decide)
          (List.forall_mem_map.2 fun key hmem => spaced_order (horder key hmem))
      rw [Select.pieces]
      apply spaced_counts
      split <;> simp [hshown, spaced_source hsource, hwhere, hordered, Piece.isWord, isUnquoted]

theorem spaced_below : ∀ {below : List (String × RelationKind × Select)},
    (∀ table ∈ Select.tablesBelow below, isUnquoted table.text = true) →
      ∀ part ∈ Select.relationPieces below, Spaced part
  | [], _ => by simp [Select.relationPieces]
  | (name, kind, select) :: rest, hunquoted => by
      obtain ⟨hselect, hrest⟩ := List.forall_mem_append.1 hunquoted
      rw [Select.relationPieces, List.forall_mem_cons]
      refine ⟨?_, spaced_below hrest⟩
      have hinner := spaced_select hselect
      cases kind <;> simp [wrapping, hinner, Piece.isWord, isUnquoted]

end

/-- With other names in a statement, its text is read with other quoted names and the same
characters outside, if no relation in an alias has another name or a quote in its name. -/
theorem Select.lexemes_renamed {names relations : String → String} {select : Select}
    (hrelations : ∀ table ∈ select.tables, ∀ name ∈ table.relations,
      isUnquoted name = true ∧ relations name = name) (key : Option String) :
    lexemes (Query.ofPieces key (select.renamed names relations).pieces).text =
      (lexemes (Query.ofPieces key select.pieces).text).map (Lexeme.renamed names) := by
  have hspaced : Spaced select.pieces := spaced_select fun table htable =>
    Alias.isUnquoted_text fun name hname => (hrelations table htable name hname).1
  have hpieces : (select.renamed names relations).pieces =
      select.pieces.map (Piece.renamed names) := pieces_renamed fun table htable =>
    Alias.renamed_eq_self fun name hname => (hrelations table htable name hname).2
  rw [hpieces, hspaced.renamed.lexemes, hspaced.lexemes, lexemesFrom_renamed]

end RestQuery.Sql
