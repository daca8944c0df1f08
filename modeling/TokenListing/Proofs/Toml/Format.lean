import TokenListing.Proofs.Toml.Numerals

/-! # Plain documents are read as what they say

Of a format it is relied on that it reads and writes plain documents. The lines of such a document
define the fields of the root table and then those of one table after another, so the tables of
`format` hold just these.
-/
namespace TokenListing.Toml

/-- The table has what the document defines, in whatever order, and nothing else. -/
structure Table.Holds (root : Table) (plain : Plain) : Prop where
  top (key : String) (scalar : Scalar) (mem : (key, scalar) ∈ plain.top) :
    root.lookup key = some scalar.value
  group (name : String) (fields : Fields) (mem : (name, fields) ∈ plain.groups) :
    ∃ origin inner, root.lookup name = some (.table origin inner) ∧
      ∀ key, inner.lookup key = (fields.lookup key).map Scalar.value
  nothing (key : String) (undefined : key ∉ plain.names) : root.lookup key = none

/-- What is relied on of a format: the lines of a plain document, with empty lines anywhere, are
read as a table that holds it, and so is what is written for it. -/
structure Format.Conforms (format : Format) : Prop where
  reads (plain : Plain) (sound : plain.Sound) (lines : List String)
    (stated : lines.filter (· ≠ "") = plain.lines) :
    ∃ root, format.read (textOf lines) = some root ∧ root.Holds plain
  writes (plain : Plain) (sound : plain.Sound) :
    ∃ text root, format.write plain = some text ∧ format.read text = some root ∧ root.Holds plain

abbrev IsLine (line : String) (statement : Statement) : Prop :=
  Line line.toList statement

theorem isLine_define {name text : String} {value : Value} (bare : IsBareKey name.toList)
    (reads : ValueOnLine text.toList value) :
    IsLine (name ++ " = " ++ text) (.define [name] value) := by
  have line := line_define bare reads
  rw [String.ofList_toList] at line
  have chars : (name ++ " = " ++ text).toList =
      name.toList ++ ' ' :: '=' :: ' ' :: text.toList := by
    simp
  rw [IsLine, chars]
  exact line

theorem isLine_openTable {group : String} (bare : IsBareKey group.toList) :
    IsLine ("[" ++ group ++ "]") (.openTable [group]) := by
  have line := line_openTable bare
  rw [String.ofList_toList] at line
  have chars : ("[" ++ group ++ "]").toList = '[' :: (group.toList ++ [']']) := by
    simp
  rw [IsLine, chars]
  exact line

theorem valueOnLine_scalar {scalar : Scalar} (fits : scalar.Fits) :
    ValueOnLine scalar.text.toList scalar.value := by
  cases scalar with
  | boolean value => exact valueOnLine_boolean value
  | integer value =>
    have greatest : greatestInteger < 0x8000000000000000 := by decide
    exact valueOnLine_integer (Nat.lt_of_le_of_lt fits greatest)

theorem lookup_eq_none_of_notMem {table : Table} {key : String}
    (undefined : key ∉ table.map Prod.fst) : table.lookup key = none := by
  refine List.lookup_eq_none_iff.mpr fun entry mem => ?_
  have ne : key ≠ entry.1 := fun same => undefined (same ▸ List.mem_map_of_mem mem)
  simpa using ne

theorem lookup_eq_some_of_mem {table : Table} {key : String} {value : Value}
    (once : (table.map Prod.fst).Nodup) (mem : (key, value) ∈ table) :
    table.lookup key = some value := by
  obtain ⟨front, back, rfl⟩ := List.append_of_mem mem
  rw [List.map_append, List.map_cons] at once
  have fresh : key ∉ front.map Prod.fst := fun earlier =>
    (List.nodup_append.mp once).2.2 _ earlier _ List.mem_cons_self rfl
  rw [List.lookup_append, lookup_eq_none_of_notMem fresh]
  simp

theorem replace_append_fresh {table : Table} {key : String} (fresh : key ∉ table.map Prod.fst)
    (old new : Value) :
    Table.replace key new (table ++ [(key, old)]) = table ++ [(key, new)] := by
  have kept : ∀ entry ∈ table, (if entry.1 = key then (key, new) else entry) = entry := by
    intro entry mem
    have ne : entry.1 ≠ key := fun same => fresh (same ▸ List.mem_map_of_mem mem)
    exact if_neg ne
  rw [Table.replace, List.map_append, List.map_congr_left kept, List.map_id']
  simp

namespace Fields

variable (fields : Fields)

def statements : List Statement :=
  fields.map fun field => .define [field.1] field.2.value

def table : Table :=
  fields.map fun field => (field.1, field.2.value)

theorem keys_table : fields.table.map Prod.fst = fields.map Prod.fst := by
  simp [table]

theorem lookup_table (key : String) :
    fields.table.lookup key = (fields.lookup key).map Scalar.value := by
  induction fields with
  | nil => rfl
  | cons field fields ih =>
    rw [table, List.map_cons, List.lookup_cons, List.lookup_cons]
    cases key == field.1 with
    | true => rfl
    | false => exact ih

variable {fields}

theorem Sound.lines (sound : fields.Sound) :
    List.Forall₂ IsLine (fields.map Plain.line) fields.statements := by
  rw [statements, List.forall₂_map_left_iff, List.forall₂_map_right_iff, List.forall₂_same]
  intro field mem
  obtain ⟨bare, fits⟩ := sound.2 field mem
  exact isLine_define bare (valueOnLine_scalar fits)

/-- The place of an opened table in the root table: what is done in the opened table is done
there. -/
def Reaches (opened : List String) (place : Table → Table) : Prop :=
  ∀ (inner : Table) (change : Table → Option Table),
    (place inner).within opened change = (change inner).map place

theorem foldlM_statements {opened : List String} {place : Table → Table}
    (reaches : Reaches opened place) :
    ∀ {fields : Fields} {inner : Table}, ((inner ++ fields.table).map Prod.fst).Nodup →
      fields.statements.foldlM Definitions.step ⟨place inner, opened⟩ =
        some ⟨place (inner ++ fields.table), opened⟩ := by
  intro fields
  induction fields with
  | nil =>
    intro inner once
    simp [statements, table]
  | cons field fields ih =>
    intro inner once
    have moved : inner ++ table (field :: fields) =
        inner ++ [(field.1, field.2.value)] ++ table fields := by
      simp [table]
    have fresh : inner.lookup field.1 = none := by
      rw [List.map_append] at once
      refine lookup_eq_none_of_notMem fun earlier => ?_
      exact (List.nodup_append.mp once).2.2 _ earlier _ List.mem_cons_self rfl
    have defined : Definitions.step ⟨place inner, opened⟩ (.define [field.1] field.2.value) =
        some ⟨place (inner ++ [(field.1, field.2.value)]), opened⟩ := by
      simp [Definitions.step, reaches inner, Table.define, fresh]
    rw [moved] at once ⊢
    rw [statements, List.map_cons, List.foldlM_cons, defined]
    exact ih once

end Fields

theorem reaches_root : Fields.Reaches [] id := by
  intro inner change
  simp [Table.within]

theorem reaches_last {front : Table} {name : String} (fresh : name ∉ front.map Prod.fst) :
    Fields.Reaches [name] fun inner => front ++ [(name, .table .header inner)] := by
  intro inner change
  have found : (front ++ [(name, Value.table .header inner)]).lookup name =
      some (.table .header inner) := by
    simp [List.lookup_append, lookup_eq_none_of_notMem fresh]
  cases changed : change inner with
  | none => simp [Table.within, found, changed]
  | some table => simp [Table.within, found, changed, replace_append_fresh fresh]

namespace Plain

variable (plain : Plain)

def groupStatements (group : String × Fields) : List Statement :=
  .openTable [group.1] :: Fields.statements group.2

def groupEntry (group : String × Fields) : String × Value :=
  (group.1, .table .header (Fields.table group.2))

def statements : List Statement :=
  Fields.statements plain.top ++ plain.groups.flatMap groupStatements

def table : Table :=
  Fields.table plain.top ++ plain.groups.map groupEntry

theorem keys_table : plain.table.map Prod.fst = plain.names := by
  rw [table, names, List.map_append, Fields.keys_table, List.map_map]
  rfl

variable {plain}

theorem Sound.lines (sound : plain.Sound) : List.Forall₂ IsLine plain.lines plain.statements := by
  refine List.rel_append sound.1.lines (List.rel_flatten ?_)
  rw [List.forall₂_map_left_iff, List.forall₂_map_right_iff, List.forall₂_same]
  intro group mem
  obtain ⟨bare, fields⟩ := sound.2.2 group mem
  exact .cons (isLine_openTable bare) fields.lines

theorem foldlM_group {front : Table} {group : String × Fields}
    (fresh : group.1 ∉ front.map Prod.fst) (sound : Fields.Sound group.2) (opened : List String) :
    (groupStatements group).foldlM Definitions.step ⟨front, opened⟩ =
      some ⟨front ++ [groupEntry group], [group.1]⟩ := by
  have header : Definitions.step ⟨front, opened⟩ (.openTable [group.1]) =
      some ⟨front ++ [(group.1, .table .header [])], [group.1]⟩ := by
    simp [Definitions.step, Table.openTable, lookup_eq_none_of_notMem fresh]
  have once : (([] ++ Fields.table group.2).map Prod.fst).Nodup := by
    rw [List.nil_append, Fields.keys_table]
    exact sound.1
  rw [groupStatements, List.foldlM_cons, header]
  exact Fields.foldlM_statements (reaches_last fresh) once

theorem foldlM_groups : ∀ {groups : List (String × Fields)} {front : Table} (opened : List String),
    (front.map Prod.fst ++ groups.map Prod.fst).Nodup →
      (∀ group ∈ groups, Fields.Sound group.2) →
        ∃ last, (groups.flatMap groupStatements).foldlM Definitions.step ⟨front, opened⟩ =
          some ⟨front ++ groups.map groupEntry, last⟩ := by
  intro groups
  induction groups with
  | nil =>
    intro front opened once sound
    exact ⟨opened, by simp⟩
  | cons group groups ih =>
    intro front opened once sound
    have fresh : group.1 ∉ front.map Prod.fst := fun earlier =>
      (List.nodup_append.mp once).2.2 _ earlier _ List.mem_cons_self rfl
    have first := foldlM_group fresh (sound group List.mem_cons_self) opened
    have later : ((front ++ [groupEntry group]).map Prod.fst ++ groups.map Prod.fst).Nodup := by
      simpa [groupEntry] using once
    have others : ∀ other ∈ groups, Fields.Sound other.2 := fun other mem =>
      sound other (List.mem_cons_of_mem _ mem)
    obtain ⟨last, rest⟩ := ih [group.1] later others
    refine ⟨last, ?_⟩
    rw [List.flatMap_cons, List.foldlM_append, first]
    simpa using rest

theorem Sound.ofStatements (sound : plain.Sound) :
    Table.ofStatements plain.statements = some plain.table := by
  obtain ⟨top, once, groups⟩ := sound
  have alone : (([] ++ Fields.table plain.top).map Prod.fst).Nodup := by
    rw [List.nil_append, Fields.keys_table]
    exact top.1
  have root : (Fields.statements plain.top).foldlM Definitions.step {} =
      some ⟨Fields.table plain.top, []⟩ := Fields.foldlM_statements reaches_root alone
  have names : ((Fields.table plain.top).map Prod.fst ++ plain.groups.map Prod.fst).Nodup := by
    rw [Fields.keys_table]
    exact once
  obtain ⟨last, rest⟩ := foldlM_groups [] names fun group mem => (groups group mem).2
  rw [Table.ofStatements, statements, List.foldlM_append, root]
  simp [rest, table]

theorem Sound.holds (sound : plain.Sound) : plain.table.Holds plain where
  top key scalar mem := by
    refine lookup_eq_some_of_mem ?_ (List.mem_append_left _ ?_)
    · rw [keys_table]
      exact sound.2.1
    · exact List.mem_map_of_mem mem
  group name fields mem := by
    refine ⟨.header, Fields.table fields, lookup_eq_some_of_mem ?_ (List.mem_append_right _ ?_),
      Fields.lookup_table fields⟩
    · rw [keys_table]
      exact sound.2.1
    · exact List.mem_map_of_mem mem
  nothing key undefined := by
    refine lookup_eq_none_of_notMem ?_
    rw [keys_table]
    exact undefined

theorem line_ne_empty (field : String × Scalar) : line field ≠ "" := by
  intro empty
  simpa [line] using congrArg String.toList empty

theorem filter_lines (fields : Fields) :
    (fields.map line).filter (· ≠ "") = fields.map line := by
  refine List.filter_eq_self.mpr fun written mem => ?_
  obtain ⟨field, -, rfl⟩ := List.mem_map.mp mem
  exact decide_eq_true (line_ne_empty field)

theorem filter_groupLines (group : String × Fields) :
    ("" :: groupLines group).filter (· ≠ "") = groupLines group := by
  have filled : "[" ++ group.1 ++ "]" ≠ "" := by
    intro empty
    simpa using congrArg String.toList empty
  rw [List.filter_cons_of_neg (by simp), groupLines, filter_cons_of_filled _ filled, filter_lines]

theorem filter_spacedLines (plain : Plain) : plain.spacedLines.filter (· ≠ "") = plain.lines := by
  rw [spacedLines, lines, List.filter_append, filter_lines, List.filter_flatMap]
  exact congrArg _ (List.flatMap_congr fun group _ => filter_groupLines group)

end Plain

/-- The tables of a document without dotted keys and lists hold what its lines say. -/
theorem conforms_format : format.Conforms := by
  have reads (plain : Plain) (sound : plain.Sound) (lines : List String)
      (stated : lines.filter (· ≠ "") = plain.lines) :
      ∃ root, Table.ofText? (textOf lines) = some root ∧ root.Holds plain := by
    have spelled : Spells lines plain.statements := by
      rw [Spells, stated]
      exact sound.lines
    exact ⟨plain.table, (ofText_textOf spelled).trans sound.ofStatements, sound.holds⟩
  refine ⟨reads, fun plain sound => ?_⟩
  obtain ⟨root, parsed, holds⟩ := reads plain sound plain.spacedLines plain.filter_spacedLines
  exact ⟨_, root, if_pos sound, parsed, holds⟩

end TokenListing.Toml
