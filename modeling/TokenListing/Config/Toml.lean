import TokenListing.Config
import TokenListing.Files
import TokenListing.Toml.Format

/-! # Settings in documents

Settings are read from a document and written as one. A setting that the document leaves out has
its default, and what is no setting is passed over. A group of settings is a table, or an array
of its settings in their order. The document is in the file that is named, or else in the usual
one. Only the usual file may be missing; the settings are then the defaults.
-/
namespace TokenListing.Config

open Toml (Value Table)

def flagOf : Value → Except ConfigError Bool
  | .boolean value => .ok value
  | _ => .error .malformed

def countOf : Value → Except ConfigError Nat
  | .integer value => if 0 ≤ value then .ok value.toNat else .error .malformed
  | _ => .error .malformed

/-- The value of the only setting of a group, if the group sets it. In an array it comes first.
A date is a table of its own kind, without any setting. -/
def onlySetting (name : String) : Value → Except ConfigError (Option Value)
  | .table _ entries | .inlineTable entries => .ok (entries.lookup name)
  | .array elements => .ok elements.head?
  | .dateTime _ => .ok none
  | _ => .error .malformed

def orDefault {α : Type} (default : α) (read : Value → Except ConfigError α) :
    Option Value → Except ConfigError α
  | none => .ok default
  | some value => read value

def grouped {α : Type} (root : Table) (group name : String) (default : α)
    (read : Value → Except ConfigError α) : Except ConfigError α := do
  let setting ← orDefault none (onlySetting name) (root.lookup group)
  orDefault default read setting

def ofTable (root : Table) : Except ConfigError Config := do
  let verbose ← orDefault false flagOf (root.lookup "verbose")
  let chunkCapacity ← grouped root "lexer" "chunk_capacity" Source.defaultCapacity countOf
  let showPosition ← grouped root "output" "show_position" true flagOf
  return { verbose, chunkCapacity, showPosition }

def ofToml (text : String) (format : Toml.Format := Toml.format) : Except ConfigError Config := do
  let root ← (format.read text).elim (.error .malformed) .ok
  let config ← ofTable root
  config.validate
  return config

def plain (config : Config) : Toml.Plain where
  top := [("verbose", .boolean config.verbose)]
  groups := [("lexer", [("chunk_capacity", .integer config.chunkCapacity)]),
    ("output", [("show_position", .boolean config.showPosition)])]

def toToml? (config : Config) (format : Toml.Format := Toml.format) : Option String :=
  format.write config.plain

def ofEntry (path : String) (entry : Entry) (format : Toml.Format := Toml.format) :
    Except ConfigError Config := do
  unless entry.isPresent do throw (.notFound path)
  let text ← entry.text.mapError (.unreadable path)
  ofToml text format

def pathOf (path? : Option String) : String :=
  path?.getD fileName

/-- The settings at the path that is named, if one is, or else at the usual one, and what is
told of it. -/
def load (path? : Option String) (entry : Entry) (format : Toml.Format := Toml.format) :
    Except ConfigError Config × List Event :=
  if path?.isNone ∧ !entry.isPresent then (.ok {}, [])
  else
    match ofEntry (pathOf path?) entry format with
    | .ok config => (.ok config, [.loadedConfig (pathOf path?)])
    | .error error => (.error error, [])

end TokenListing.Config
