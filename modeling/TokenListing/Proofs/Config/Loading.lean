import TokenListing.Config.Toml

/-! # Which settings are loaded

What is at the path of the settings is either refused or states settings that can be used. Only the
usual path may lead to nothing, and the settings are then the defaults.
-/
namespace TokenListing

theorem exists_of_bind_ok {ε α β : Type} {first : Except ε α} {more : α → Except ε β} {result : β}
    (h : first >>= more = .ok result) : ∃ value, first = .ok value ∧ more value = .ok result := by
  cases first with
  | error error => cases h
  | ok value => exact ⟨value, rfl, h⟩

namespace Config

/-- The text is a document of these settings, which may be out of their ranges. -/
def States (format : Toml.Format) (text : String) (config : Config) : Prop :=
  ∃ root, format.read text = some root ∧ ofTable root = .ok config

theorem states_iff (format : Toml.Format) (text : String) (config : Config) :
    States format text config ↔
      ((format.read text).bind fun root => (ofTable root).toOption) = some config := by
  rw [States, Option.bind_eq_some_iff]
  refine exists_congr fun root => and_congr_right fun _ => ?_
  cases ofTable root with
  | ok settings => simp [Except.toOption]
  | error error => simp [Except.toOption]

instance (format : Toml.Format) (text : String) (config : Config) :
    Decidable (States format text config) :=
  decidable_of_iff _ (states_iff format text config).symm

/-- The settings that are used before any option changes them. -/
inductive Selected (format : Toml.Format) (path? : Option String) (entry : Entry) :
    Config → Prop where
  | usual (unnamed : path? = none) (absent : entry.isPresent = false) :
      Selected format path? entry {}
  | stated {text : String} {config : Config} (present : entry.isPresent = true)
      (read : entry.text = .ok text) (stated : States format text config)
      (room : 0 < config.chunkCapacity) : Selected format path? entry config

variable {format : Toml.Format}

theorem Selected.room {path? : Option String} {entry : Entry} {config : Config}
    (h : Selected format path? entry config) : 0 < config.chunkCapacity := by
  cases h with
  | usual => decide
  | stated _ _ _ room => exact room

def FailsMalformed {α : Type} (reading : Except ConfigError α) : Prop :=
  ∀ error, reading = .error error → error = .malformed

theorem FailsMalformed.bind {α β : Type} {reading : Except ConfigError α}
    {more : α → Except ConfigError β} (h : FailsMalformed reading)
    (next : ∀ value, FailsMalformed (more value)) : FailsMalformed (reading >>= more) := by
  cases reading with
  | ok value => exact next value
  | error failed =>
    intro error same
    cases same
    exact h failed rfl

variable {α : Type} {default : α} {read : Toml.Value → Except ConfigError α}

theorem ofToml_of_parsed {text : String} {root : Toml.Table}
    (parsed : format.read text = some root) :
    ofToml text format = do
      let config ← ofTable root
      config.validate
      return config := by
  rw [ofToml, parsed]
  rfl

theorem ofToml_of_states {text : String} {config : Config} (h : States format text config) :
    ofToml text format = config.validate.map fun _ => config := by
  obtain ⟨root, parsed, settings⟩ := h
  rw [ofToml_of_parsed parsed, settings]
  show (config.validate >>= fun _ => pure config) = _
  cases config.validate with
  | error error => rfl
  | ok done => rfl

theorem ofToml_of_room {text : String} {config : Config} (stated : States format text config)
    (room : 0 < config.chunkCapacity) : ofToml text format = .ok config := by
  rw [ofToml_of_states stated, validate, capacity, if_neg (Nat.ne_of_gt room)]
  rfl

theorem ofToml_of_noRoom {text : String} {config : Config} (stated : States format text config)
    (none : config.chunkCapacity = 0) :
    ofToml text format = .error (.invalid "lexer.chunk_capacity must be at least 1") := by
  rw [ofToml_of_states stated, validate, capacity, if_pos none]
  rfl

variable {path? : Option String} {entry : Entry} {config : Config} {error : ConfigError}

end Config
end TokenListing
