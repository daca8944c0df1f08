import TokenListing.Source

/-! # Settings

The settings of a run and the ways in which they cannot be used. Every setting has a default.
-/
namespace TokenListing

structure Config where
  verbose : Bool := false
  /-- The number of bytes in each of the two chunks of the source. -/
  chunkCapacity : Nat := Source.defaultCapacity
  showPosition : Bool := true
  deriving DecidableEq, Inhabited, Repr

inductive ConfigError where
  | notFound (path : String)
  | unreadable (path : String) (failure : Failure)
  /-- The text is no document of settings. -/
  | malformed
  /-- A setting is out of its range. -/
  | invalid (reason : String)
  deriving DecidableEq, Repr

namespace ConfigError

def malformedLead : String := "Failed to parse configuration: "

def text : ConfigError → String
  | notFound path => "Configuration file not found: " ++ path
  | unreadable path failure => "Failed to read configuration " ++ path ++ ": " ++ failure.message
  | malformed => malformedLead ++ "the text is no document of settings"
  | invalid reason => "Invalid configuration: " ++ reason

def causes : ConfigError → List String
  | unreadable _ failure => [failure.message]
  | _ => []

end ConfigError

namespace Config

def fileName : String := "minc.toml"

/-- The chunk capacity, which must leave room for a byte. -/
def capacity (config : Config) : Except ConfigError Nat :=
  if config.chunkCapacity = 0 then .error (.invalid "lexer.chunk_capacity must be at least 1")
  else .ok config.chunkCapacity

def validate (config : Config) : Except ConfigError Unit :=
  config.capacity.map fun _ => ()

end Config
end TokenListing
