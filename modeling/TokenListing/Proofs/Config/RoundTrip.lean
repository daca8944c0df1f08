import TokenListing.Proofs.Config.Settings
import TokenListing.Proofs.Toml.Format
import TokenListing.Session

/-! # Settings survive being written and read

A document may set any of the settings and leave the others out, with or without their tables. It
is read as the defaults with just these settings replaced, and only a chunk capacity of zero is
refused. So the document of any usable settings is read as these settings. Of the format it is only
used that it reads and writes plain documents.
-/
namespace TokenListing.Config

open Toml (Value Table Scalar Fields)

variable {α : Type}

namespace Settings

def line [ToString α] (name : String) (value : α) : String :=
  name ++ " = " ++ toString value

def groupLines [ToString α] (group name : String) : Option (Option α) → List String
  | none => []
  | some setting => ("[" ++ group ++ "]") :: setting.toList.map (line name)

/-- The lines that set the settings and no others. -/
def lines (settings : Settings) : List String :=
  settings.verbose.toList.map (line "verbose") ++
    groupLines "lexer" "chunk_capacity" settings.lexer ++
    groupLines "output" "show_position" settings.output

def groupTables (group name : String) (scalar : α → Scalar) :
    Option (Option α) → List (String × Fields)
  | none => []
  | some setting => [(group, setting.toList.map fun a => (name, scalar a))]

def plain (settings : Settings) : Toml.Plain where
  top := settings.verbose.toList.map fun value => ("verbose", .boolean value)
  groups := groupTables "lexer" "chunk_capacity" .integer settings.lexer ++
    groupTables "output" "show_position" .boolean settings.output

/-- The capacity is no greater than an integer of a document may be. -/
def Fits (settings : Settings) : Prop :=
  ∀ capacity, settings.lexer = some (some capacity) → capacity ≤ Toml.greatestInteger

theorem flatMap_groupTables [ToString α] (group name : String) {scalar : α → Scalar}
    (text : ∀ a, (scalar a).text = toString a) (setting : Option (Option α)) :
    (groupTables group name scalar setting).flatMap Toml.Plain.groupLines =
      groupLines group name setting := by
  match setting with
  | none => rfl
  | some none => rfl
  | some (some a) =>
    simp [groupTables, groupLines, Toml.Plain.groupLines, Toml.Plain.line, line, text]

theorem lines_plain (settings : Settings) : settings.plain.lines = settings.lines := by
  have top : settings.plain.top.map Toml.Plain.line =
      settings.verbose.toList.map (line "verbose") :=
    List.map_map
  have groups : settings.plain.groups.flatMap Toml.Plain.groupLines =
      groupLines "lexer" "chunk_capacity" settings.lexer ++
        groupLines "output" "show_position" settings.output := by
    rw [plain, List.flatMap_append, flatMap_groupTables _ _ (fun _ => rfl),
      flatMap_groupTables _ _ (fun _ => rfl)]
  rw [Toml.Plain.lines, top, groups, lines, List.append_assoc]

theorem sound_single {name : String} (bare : Toml.IsBareKey name.toList) {scalar : α → Scalar}
    (setting : Option α) (fits : ∀ a, setting = some a → (scalar a).Fits) :
    Fields.Sound (setting.toList.map fun a => (name, scalar a)) := by
  cases setting with
  | none => exact ⟨List.nodup_nil, by simp⟩
  | some a => exact ⟨List.pairwise_singleton _ _, by simpa using ⟨bare, fits a rfl⟩⟩

theorem sound_groupTables {group name : String} (groupBare : Toml.IsBareKey group.toList)
    (bare : Toml.IsBareKey name.toList) {scalar : α → Scalar} (setting : Option (Option α))
    (fits : ∀ a, setting = some (some a) → (scalar a).Fits) :
    ∀ table ∈ groupTables group name scalar setting,
      Toml.IsBareKey table.1.toList ∧ Fields.Sound table.2 := by
  cases setting with
  | none => simp [groupTables]
  | some setting =>
    intro table mem
    rw [groupTables, List.mem_singleton] at mem
    subst mem
    exact ⟨groupBare, sound_single bare setting fun a set => fits a (congrArg some set)⟩

theorem names_groupTables (group name : String) (scalar : α → Scalar)
    (setting : Option (Option α)) :
    (groupTables group name scalar setting).map Prod.fst = setting.toList.map fun _ => group := by
  cases setting with
  | none => rfl
  | some setting => rfl

theorem names_plain (settings : Settings) :
    settings.plain.names = (settings.verbose.toList.map fun _ => "verbose") ++
      ((settings.lexer.toList.map fun _ => "lexer") ++
        settings.output.toList.map fun _ => "output") := by
  have top : settings.plain.top.map Prod.fst = settings.verbose.toList.map fun _ => "verbose" :=
    List.map_map
  rw [Toml.Plain.names, top, plain, List.map_append, names_groupTables, names_groupTables]

theorem nodup_names_plain (settings : Settings) : settings.plain.names.Nodup := by
  have single {β : Type} (setting : Option β) (name : String) :
      (setting.toList.map fun _ => name).Sublist [name] := by
    cases setting with
    | none => exact List.nil_sublist _
    | some value => exact List.Sublist.refl _
  have some : settings.plain.names.Sublist (["verbose"] ++ (["lexer"] ++ ["output"])) := by
    rw [names_plain]
    exact (single _ _).append ((single _ _).append (single _ _))
  exact some.nodup (by decide)

theorem sound_plain {settings : Settings} (fits : settings.Fits) : settings.plain.Sound := by
  have flag (value : Bool) : (Scalar.boolean value).Fits := trivial
  refine ⟨sound_single (by decide) settings.verbose fun value _ => flag value,
    settings.nodup_names_plain, fun table mem => ?_⟩
  rcases List.mem_append.mp mem with lexer | output
  · have capacity (n : Nat) (set : settings.lexer = some (some n)) : (Scalar.integer n).Fits :=
      fits n set
    exact sound_groupTables (by decide) (by decide) settings.lexer capacity table lexer
  · exact sound_groupTables (by decide) (by decide) settings.output (fun value _ => flag value)
      table output

end Settings

theorem setsGroup_of_holds {root : Table} {plain : Toml.Plain} (holds : root.Holds plain)
    {group name : String} {scalar : α → Scalar} {setting : Option (Option α)}
    (tables : Settings.groupTables group name scalar setting ⊆ plain.groups)
    (unset : setting = none → group ∉ plain.names) :
    SetsGroup root group name (fun a => (scalar a).value) setting := by
  cases setting with
  | none => exact .absent (holds.nothing group (unset rfl))
  | some setting =>
    obtain ⟨origin, inner, found, entries⟩ := holds.group group _ (tables List.mem_cons_self)
    refine .present found (congrArg Except.ok ((entries name).trans ?_))
    cases setting with
    | none => rfl
    | some a => simp

theorem sets_of_holds {root : Table} {settings : Settings} (holds : root.Holds settings.plain) :
    Sets root settings where
  verbose := by
    cases set : settings.verbose with
    | none =>
      refine holds.nothing "verbose" ?_
      simp [Settings.names_plain, set]
    | some value =>
      refine holds.top "verbose" (.boolean value) ?_
      simp [Settings.plain, set]
  lexer := setsGroup_of_holds holds (List.subset_append_left _ _) fun unset => by
    simp [Settings.names_plain, unset]
  output := setsGroup_of_holds holds (List.subset_append_right _ _) fun unset => by
    simp [Settings.names_plain, unset]

def allSettings (config : Config) : Settings :=
  ⟨some config.verbose, some (some config.chunkCapacity), some (some config.showPosition)⟩

theorem outcome_allSettings {config : Config} (room : 1 ≤ config.chunkCapacity) :
    config.allSettings.outcome = .ok config := by
  have some : config.allSettings.lexer ≠ some (some 0) := by
    intro zero
    cases config
    cases zero
    cases room
  exact if_neg some

/-- Settings survive being written and read, and a document sets what its lines say. The document
of any settings whose capacity is positive and no greater than an integer may be is read as these
settings. A document sets any of the settings, whether each of the others has at least the header
of its table or not, with empty lines anywhere: it is read as the defaults with just the settings
of its lines, unless the capacity is zero, which is the error. The same holds however a document
spells its settings. Whatever text is read as settings spells them, they are in their ranges, and
there is a session with them. -/
theorem documents_read_back {format : Toml.Format} (conforms : format.Conforms) :
    (∀ config : Config, 1 ≤ config.chunkCapacity → config.chunkCapacity ≤ Toml.greatestInteger →
      ∃ text, config.toToml? format = some text ∧ ofToml text format = .ok config) ∧
    (∀ settings : Settings, settings.Fits → ∀ lines : List String,
      lines.filter (· ≠ "") = settings.lines →
        ofToml (Toml.textOf lines) format = settings.outcome) ∧
    (∀ (settings : Settings) (text : String) (root : Table), format.read text = some root →
      Sets root settings → ofToml text format = settings.outcome) ∧
    ∀ (text : String) (config : Config), ofToml text format = .ok config →
      (∃ root settings, format.read text = some root ∧ Sets root settings ∧
        settings.config = config) ∧
      config.validate = .ok () ∧ Session.ofConfig config = .ok ⟨config, {}⟩ := by
  refine ⟨fun config room fits => ?_, fun settings fits lines set => ?_,
    fun settings text root => ofToml_of_sets, fun text config read => ?_⟩
  · have sound : config.allSettings.plain.Sound :=
      Settings.sound_plain (by rintro capacity ⟨⟩; exact fits)
    obtain ⟨text, root, written, parsed, holds⟩ := conforms.writes _ sound
    exact ⟨text, written,
      (ofToml_of_sets parsed (sets_of_holds holds)).trans (outcome_allSettings room)⟩
  · obtain ⟨root, parsed, holds⟩ :=
      conforms.reads _ (Settings.sound_plain fits) lines (set.trans settings.lines_plain.symm)
    exact ofToml_of_sets parsed (sets_of_holds holds)
  · obtain ⟨sets, valid⟩ := sets_of_ofToml read
    refine ⟨sets, valid, ?_⟩
    rw [Session.ofConfig, valid]
    rfl

/-- The program's own format, which writes an empty line before each table, with a table without
its setting, and a capacity of zero in another. -/
theorem documents_read_back_no_room :
    let config : Config := ⟨true, 3, false⟩
    let settings : Settings := { lexer := some (some 0), output := some none }
    let lines := ["[lexer]", "", "chunk_capacity = 0", "[output]"]
    let refused : Except ConfigError Config :=
      .error (.invalid "lexer.chunk_capacity must be at least 1")
    let text := "verbose = true\n\n[lexer]\nchunk_capacity = 3\n\n[output]\nshow_position = false\n"
    Toml.format.Conforms ∧ 1 ≤ config.chunkCapacity ∧
      config.chunkCapacity ≤ Toml.greatestInteger ∧ settings.Fits ∧
      lines.filter (· ≠ "") = settings.lines ∧
      config.toToml? = some text ∧ ofToml text = .ok config ∧
      (∃ root settings, Table.ofText? text = some root ∧ Sets root settings ∧
        settings.config = config) ∧
      config.validate = .ok () ∧ Session.ofConfig config = .ok ⟨config, {}⟩ ∧
      settings.outcome = refused ∧ ofToml (Toml.textOf lines) = refused ∧
      ∃ root, Table.ofText? (Toml.textOf lines) = some root ∧ Sets root settings ∧
        ofToml (Toml.textOf lines) = settings.outcome := by
  intro config settings lines refused text
  have room : 1 ≤ config.chunkCapacity := by decide
  have small : config.chunkCapacity ≤ Toml.greatestInteger := by decide
  have fits : settings.Fits := by
    rintro capacity ⟨⟩
    exact Nat.zero_le _
  have set : lines.filter (· ≠ "") = settings.lines := by decide +kernel
  have document : config.toToml? = some text := by decide +kernel
  obtain ⟨written, spelled, stated, taken⟩ := documents_read_back Toml.conforms_format
  obtain ⟨other, found, read⟩ := written config room small
  obtain rfl : text = other := Option.some.inj (document.symm.trans found)
  obtain ⟨sets, valid, opened⟩ := taken text config read
  obtain ⟨root, parsed, holds⟩ := Toml.conforms_format.reads _ (Settings.sound_plain fits) lines
    (set.trans settings.lines_plain.symm)
  exact ⟨Toml.conforms_format, room, small, fits, set, document, read, sets, valid, opened, rfl,
    spelled settings fits lines set, root, parsed, sets_of_holds holds,
    stated settings _ root parsed (sets_of_holds holds)⟩

end TokenListing.Config
