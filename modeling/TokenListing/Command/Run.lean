import TokenListing.Command.Help
import TokenListing.Command.Log
import TokenListing.Config.Toml
import TokenListing.Session

/-! # Runs of the command

A run reads the settings, opens the input, lists its tokens, and reports. The standard output
receives the listing alone; log lines, diagnostics and the final error go to the standard error.
-/
namespace TokenListing.Command

structure Report where
  exitCode : UInt8
  stdout : ByteArray
  stderr : String

def failureCode : UInt8 := 2

inductive Error where
  | config (error : ConfigError)
  | input (path : String) (failure : Failure)
  | run (inputName : String) (error : RunError)
  deriving DecidableEq, Repr

namespace Error

def chain : Error → List String
  | config error => error.text :: error.causes
  | input path failure => ["Failed to open " ++ path, failure.message]
  | run inputName error =>
    ("Failed to list tokens of " ++ inputName) :: error.text :: error.causes

def text (error : Error) : String :=
  "error: " ++ ": ".intercalate error.chain ++ "\n"

end Error

def Report.ofError (error : Error) : Report :=
  ⟨failureCode, .empty, error.text⟩

def Report.ofStop (environment : Environment) : Stop → Report
  | .help => ⟨0, help environment, ""⟩
  | .version => ⟨0, versionText.toUTF8, ""⟩
  | .usage error => ⟨failureCode, .empty, "error: " ++ error.text ++ "\n"⟩

def isStandardInput (path : String) : Bool :=
  path.startsWith "-" && FileTree.names path == ["-"]

namespace Options

def apply (options : Options) (config : Config) : Config :=
  { config with
    verbose := options.verbose || config.verbose
    chunkCapacity := options.chunkCapacity.getD config.chunkCapacity }

def settings (options : Options) (configEntry : Entry) (format : Toml.Format := Toml.format) :
    Except ConfigError Config :=
  (Config.load options.config configEntry format).1.map options.apply

def inputPath? (options : Options) : Option String :=
  options.input.filter fun path => !isStandardInput path

def inputName (options : Options) : String :=
  options.input.getD "<stdin>"

end Options

def exitOf : Except RunError Outcome → UInt8
  | .ok outcome => outcome.exitCode
  | .error _ => failureCode

def list (options : Options) (config : Config) (filter : LogFilter) (time : String)
    (input : Input) : Report :=
  match Session.ofConfig config with
  | .error error => .ofError (.config error)
  | .ok session =>
    let run := session.run input {}
    let log := logText filter (!options.noColor) time run.events.toList
    let error := match run.result with
      | .ok _ => ""
      | .error error => (Error.run options.inputName error).text
    ⟨exitOf run.result, run.output.received, log ++ run.session.log.text ++ error⟩

def listEntry (options : Options) (config : Config) (log : Option String) (time : String)
    (entry : Entry) : Report :=
  match entry.input with
  | .error failure => .ofError (.input options.inputName failure)
  | .ok input => list options config (.choose log config.verbose) time input

/-- A run with these options, over what the paths of the settings and of the input lead to. -/
def respond (options : Options) (log : Option String) (time : String)
    (configEntry inputEntry : Entry) (format : Toml.Format := Toml.format) : Report :=
  match options.settings configEntry format with
  | .error error => .ofError (.config error)
  | .ok config => listEntry options config log time inputEntry

/-- Reads the arguments and the environment. -/
abbrev Parser := List String → Environment → Except Stop Options

/-- A run of the command among files, with bytes on the standard input. -/
def run (arguments : List String) (environment : Environment) (files : FileTree)
    (stdin : Entry) (time : String) (parse : Parser := Options.ofArguments)
    (format : Toml.Format := Toml.format) : Report :=
  match parse arguments environment with
  | .error stop => .ofStop environment stop
  | .ok options =>
    respond options environment.log time (files.entry (Config.pathOf options.config))
      (options.inputPath?.elim stdin files.entry) format

end TokenListing.Command
