import TokenListing.Proofs.Config.Loading

/-! # What a table sets

A root table sets some of the settings and leaves the others out, with or without their groups. It
is read as the defaults with just these settings replaced, and a table that is read as settings is
of this kind. Of all settings only a chunk capacity of zero is refused.
-/
namespace TokenListing.Config

open Toml (Value Table)

/-- A choice of settings. A group is left out, or its table is there without its setting, or with
it. -/
structure Settings where
  verbose : Option Bool := none
  lexer : Option (Option Nat) := none
  output : Option (Option Bool) := none

namespace Settings

def config (settings : Settings) : Config :=
  let default : Config := {}
  { verbose := settings.verbose.getD default.verbose,
    chunkCapacity := settings.lexer.join.getD default.chunkCapacity,
    showPosition := settings.output.join.getD default.showPosition }

/-- What a document that sets just the settings is read as. Only one setting can be out of its
range. -/
def outcome (settings : Settings) : Except ConfigError Config :=
  if settings.lexer = some (some 0) then
    .error (.invalid "lexer.chunk_capacity must be at least 1")
  else .ok settings.config

end Settings

variable {α : Type}

/-- What a root table has of a group: no such key, or a group in which nothing but the setting
counts. -/
inductive SetsGroup (root : Table) (group name : String) (value : α → Value) :
    Option (Option α) → Prop where
  | absent (unset : root.lookup group = none) : SetsGroup root group name value none
  | present {found : Value} {setting : Option α} (set : root.lookup group = some found)
      (only : onlySetting name found = .ok (setting.map value)) :
      SetsGroup root group name value (some setting)

/-- The root table of a document that sets just these settings, however they are spelled. -/
structure Sets (root : Table) (settings : Settings) : Prop where
  verbose : root.lookup "verbose" = settings.verbose.map .boolean
  lexer : SetsGroup root "lexer" "chunk_capacity" (fun n : Nat => .integer n) settings.lexer
  output : SetsGroup root "output" "show_position" .boolean settings.output

theorem orDefault_map {default : α} {read : Value → Except ConfigError α} {value : α → Value}
    (reads : ∀ a, read (value a) = .ok a) (setting : Option α) :
    orDefault default read (setting.map value) = .ok (setting.getD default) := by
  cases setting with
  | none => rfl
  | some a => exact reads a

theorem SetsGroup.grouped {root : Table} {group name : String} {value : α → Value}
    {setting : Option (Option α)} (h : SetsGroup root group name value setting) {default : α}
    {read : Value → Except ConfigError α} (reads : ∀ a, read (value a) = .ok a) :
    grouped root group name default read = .ok (setting.join.getD default) := by
  unfold Config.grouped
  cases h with
  | absent unset =>
    rw [unset]
    rfl
  | present set only =>
    rw [set, orDefault, only]
    exact orDefault_map reads _

theorem ofTable_of_sets {root : Table} {settings : Settings} (h : Sets root settings) :
    ofTable root = .ok settings.config := by
  have flag (b : Bool) : flagOf (.boolean b) = .ok b := rfl
  have count (n : Nat) : countOf (.integer n) = .ok n := by simp [countOf]
  have verbose : orDefault false flagOf (root.lookup "verbose") =
      .ok (settings.verbose.getD false) := by
    rw [h.verbose]
    exact orDefault_map flag _
  have lexer : grouped root "lexer" "chunk_capacity" Source.defaultCapacity countOf =
      .ok (settings.lexer.join.getD Source.defaultCapacity) := h.lexer.grouped count
  have output : grouped root "output" "show_position" true flagOf =
      .ok (settings.output.join.getD true) := h.output.grouped flag
  rw [ofTable, verbose, lexer, output]
  rfl

theorem eq_boolean_of_flagOf {value : Value} {b : Bool} (h : flagOf value = .ok b) :
    value = .boolean b := by
  cases value <;> cases h
  rfl

theorem eq_integer_of_countOf {value : Value} {n : Nat} (h : countOf value = .ok n) :
    value = .integer n := by
  cases value with
  | integer value =>
    rw [countOf] at h
    split at h
    case isTrue positive =>
      cases h
      rw [Int.toNat_of_nonneg positive]
    case isFalse => cases h
  | _ => cases h

theorem exists_setsGroup {root : Table} {group name : String} {default a : α}
    {value : α → Value} {read : Value → Except ConfigError α}
    (only : ∀ found a, read found = .ok a → found = value a)
    (h : grouped root group name default read = .ok a) :
    ∃ setting, SetsGroup root group name value setting := by
  cases set : root.lookup group with
  | none => exact ⟨none, .absent set⟩
  | some found =>
    rw [grouped, set, orDefault] at h
    cases inner : onlySetting name found with
    | error error =>
      rw [inner] at h
      cases h
    | ok setting =>
      rw [inner] at h
      cases setting with
      | none => exact ⟨some none, .present set inner⟩
      | some value =>
        cases only value a h
        exact ⟨some (some a), .present set inner⟩

/-- A root table is read as settings exactly if it sets some of them, and as these. -/
theorem ofTable_iff_sets {root : Table} {config : Config} :
    ofTable root = .ok config ↔ ∃ settings, Sets root settings ∧ settings.config = config := by
  constructor
  · intro h
    obtain ⟨flag, verbose, rest⟩ := exists_of_bind_ok h
    obtain ⟨capacity, lexer, rest⟩ := exists_of_bind_ok rest
    obtain ⟨shown, output, -⟩ := exists_of_bind_ok rest
    obtain ⟨lexerSetting, lexerSet⟩ := exists_setsGroup (fun _ _ => eq_integer_of_countOf) lexer
    obtain ⟨outputSetting, outputSet⟩ := exists_setsGroup (fun _ _ => eq_boolean_of_flagOf) output
    obtain ⟨setting, verboseSet⟩ : ∃ setting : Option Bool,
        root.lookup "verbose" = setting.map .boolean := by
      cases set : root.lookup "verbose" with
      | none => exact ⟨none, rfl⟩
      | some found =>
        rw [set] at verbose
        exact ⟨some flag, congrArg some (eq_boolean_of_flagOf verbose)⟩
    have sets : Sets root ⟨setting, lexerSetting, outputSetting⟩ :=
      ⟨verboseSet, lexerSet, outputSet⟩
    exact ⟨_, sets, Except.ok.inj ((ofTable_of_sets sets).symm.trans h)⟩
  · rintro ⟨settings, sets, rfl⟩
    exact ofTable_of_sets sets

theorem Settings.room {settings : Settings} (h : settings.lexer ≠ some (some 0)) :
    1 ≤ settings.config.chunkCapacity := by
  have default : 1 ≤ Source.defaultCapacity := by decide
  unfold Settings.config
  match capacity : settings.lexer with
  | none => exact default
  | some none => exact default
  | some (some n) =>
    rw [capacity] at h
    refine Nat.one_le_iff_ne_zero.mpr ?_
    rintro rfl
    exact h rfl

theorem ofToml_of_sets {format : Toml.Format} {text : String} {root : Table} {settings : Settings}
    (parsed : format.read text = some root) (sets : Sets root settings) :
    ofToml text format = settings.outcome := by
  have stated : States format text settings.config := ⟨root, parsed, ofTable_of_sets sets⟩
  unfold Settings.outcome
  by_cases zero : settings.lexer = some (some 0)
  · have none : settings.config.chunkCapacity = 0 := by simp [Settings.config, zero]
    rw [if_pos zero, ofToml_of_noRoom stated none]
  · rw [if_neg zero, ofToml_of_room stated (Settings.room zero)]

theorem sets_of_ofToml {format : Toml.Format} {text : String} {config : Config}
    (h : ofToml text format = .ok config) :
    (∃ root settings, format.read text = some root ∧ Sets root settings ∧
      settings.config = config) ∧ config.validate = .ok () := by
  obtain ⟨root, parsed, h⟩ := exists_of_bind_ok h
  obtain ⟨other, taken, h⟩ := exists_of_bind_ok h
  obtain ⟨done, valid, h⟩ := exists_of_bind_ok h
  cases h
  obtain ⟨settings, sets, same⟩ := ofTable_iff_sets.mp taken
  refine ⟨⟨root, settings, ?_, sets, same⟩, valid⟩
  cases read : format.read text with
  | none =>
    rw [read] at parsed
    cases parsed
  | some found =>
    rw [read] at parsed
    cases parsed
    rfl

end TokenListing.Config
