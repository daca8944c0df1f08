import TokenListing.Files

/-! # Command line options

The arguments of the command are read from left to right, and the first fault or request for help
decides. What the arguments leave open is then taken from the environment. Each option may be
given once.
-/
namespace TokenListing.Command

structure Options where
  /-- The path of the input; the standard input if none is given. -/
  input : Option String := none
  verbose : Bool := false
  config : Option String := none
  noColor : Bool := false
  chunkCapacity : Option Nat := none
  deriving DecidableEq, Repr

inductive Flag where
  | verbose
  | config
  | noColor
  | chunkCapacity
  | help
  | version
  deriving DecidableEq, Repr

namespace Flag

def ofLong? : String → Option Flag
  | "verbose" => some verbose
  | "config" => some config
  | "no-color" => some noColor
  | "chunk-capacity" => some chunkCapacity
  | "help" => some help
  | "version" => some version
  | _ => none

def ofShort? : Char → Option Flag
  | 'v' => some verbose
  | 'c' => some config
  | 'h' => some help
  | 'V' => some version
  | _ => none

def takesValue : Flag → Bool
  | config | chunkCapacity => true
  | _ => false

def text : Flag → String
  | verbose => "--verbose"
  | config => "--config"
  | noColor => "--no-color"
  | chunkCapacity => "--chunk-capacity"
  | help => "--help"
  | version => "--version"

end Flag

inductive UsageError where
  | unknown (argument : String)
  | repeated (flag : Flag)
  | missingValue (flag : Flag)
  | unwantedValue (flag : Flag)
  | invalidValue (flag : Flag) (value : String)
  | emptyInput
  | secondInput (argument : String)
  deriving DecidableEq, Repr

namespace UsageError

def text : UsageError → String
  | unknown argument => "unexpected argument '" ++ argument ++ "' found"
  | repeated flag => "the argument '" ++ flag.text ++ "' cannot be used multiple times"
  | missingValue flag => "a value is required for '" ++ flag.text ++ "' but none was supplied"
  | unwantedValue flag => "no value is expected for '" ++ flag.text ++ "'"
  | invalidValue flag value => "invalid value '" ++ value ++ "' for '" ++ flag.text ++ "'"
  | emptyInput => "the input must have a name"
  | secondInput argument => "unexpected argument '" ++ argument ++ "' found"

end UsageError

inductive Stop where
  | help
  | version
  | usage (error : UsageError)
  deriving DecidableEq, Repr

namespace Options

def greatestCapacity : Nat := Nat.pow 2 64 - 1

def capacity? (text : String) : Option Nat := do
  let digits := match text.toList with
    | '+' :: digits => digits
    | digits => digits
  if digits.isEmpty ∨ !digits.all Char.isDigit then none
  let value := digits.foldl (fun n c => n * 10 + (c.toNat - '0'.toNat)) 0
  if 1 ≤ value ∧ value ≤ greatestCapacity then some value else none

def setFlag (options : Options) : Flag → Except Stop Options
  | .verbose =>
    if options.verbose then .error (.usage (.repeated .verbose))
    else .ok { options with verbose := true }
  | .noColor =>
    if options.noColor then .error (.usage (.repeated .noColor))
    else .ok { options with noColor := true }
  | .help => .error .help
  | .version => .error .version
  | flag => .error (.usage (.missingValue flag))

def setValue (options : Options) (flag : Flag) (value : String) : Except Stop Options :=
  match flag with
  | .config =>
    if options.config.isSome then .error (.usage (.repeated .config))
    else if value = "" then .error (.usage (.invalidValue .config value))
    else .ok { options with config := some value }
  | .chunkCapacity =>
    if options.chunkCapacity.isSome then .error (.usage (.repeated .chunkCapacity))
    else
      match capacity? value with
      | some capacity => .ok { options with chunkCapacity := some capacity }
      | none => .error (.usage (.invalidValue .chunkCapacity value))
  | flag => .error (.usage (.unwantedValue flag))

def setInput (options : Options) (argument : String) : Except Stop Options :=
  if options.input.isSome then .error (.usage (.secondInput argument))
  else if argument = "" then .error (.usage .emptyInput)
  else .ok { options with input := some argument }

def namesOptions (argument : String) : Bool :=
  match argument.toList with
  | '-' :: _ :: _ => true
  | _ => false

/-- The options of an argument with one dash. An option with a value takes the rest of the
argument, less an equals sign, or else waits for the next argument. -/
def readShort (options : Options) : List Char → Except Stop (Options × Option Flag)
  | [] => .ok (options, none)
  | c :: rest =>
    match Flag.ofShort? c with
    | none => .error (.usage (.unknown ("-" ++ String.singleton c)))
    | some flag =>
      if flag.takesValue then
        match rest with
        | [] => .ok (options, some flag)
        | '=' :: value | value => do
          let options ← options.setValue flag (String.ofList value)
          return (options, none)
      else do
        let options ← options.setFlag flag
        options.readShort rest

/-- The option of an argument with two dashes. A value may follow an equals sign. -/
def readLong (options : Options) (argument : List Char) :
    Except Stop (Options × Option Flag) := do
  let name := String.ofList (argument.takeWhile (· != '='))
  let value := argument.dropWhile (· != '=')
  match Flag.ofLong? name, value with
  | none, _ => throw (.usage (.unknown ("--" ++ name)))
  | some flag, [] =>
    if flag.takesValue then return (options, some flag)
    else
      let options ← options.setFlag flag
      return (options, none)
  | some flag, _ :: value =>
    let options ← options.setValue flag (String.ofList value)
    return (options, none)

def readOptions (options : Options) (argument : String) :
    Except Stop (Options × Option Flag) :=
  match argument.toList with
  | '-' :: '-' :: long => options.readLong long
  | '-' :: short => options.readShort short
  | _ => .ok (options, none)

/-- Reads arguments from left to right; `waiting` is an option that lacks its value. -/
def readArguments (options : Options) (waiting : Option Flag) :
    List String → Except Stop Options
  | [] =>
    match waiting with
    | some flag => .error (.usage (.missingValue flag))
    | none => .ok options
  | argument :: rest =>
    match waiting with
    | some flag =>
      if namesOptions argument then .error (.usage (.missingValue flag))
      else do
        let options ← options.setValue flag argument
        options.readArguments none rest
    | none =>
      if argument = "--" then rest.foldlM setInput options
      else if namesOptions argument then do
        let (options, waiting) ← options.readOptions argument
        options.readArguments waiting rest
      else do
        let options ← options.setInput argument
        options.readArguments none rest

end Options

/-- The variables of the environment that the command heeds. -/
structure Environment where
  verbose : Option String := none
  config : Option String := none
  noColor : Option String := none
  /-- Which log lines are wanted. -/
  log : Option String := none
  /-- Whether attributes are refused on every output. -/
  plainOutput : Option String := none
  /-- Whether attributes are wanted on every output. -/
  forcedColor : Option String := none
  deriving DecidableEq, Repr

namespace Environment

def ofLookup (lookup : String → Option String) : Environment where
  verbose := lookup "MINC_VERBOSE"
  config := lookup "MINC_CONFIG"
  noColor := lookup "MINC_NO_COLOR"
  log := lookup "RUST_LOG"
  plainOutput := lookup "NO_COLOR"
  forcedColor := lookup "CLICOLOR_FORCE"

def noWords : List String := ["", "0", "n", "no", "f", "false", "off"]

def isOn (value : Option String) : Bool :=
  value.any fun text => !(noWords.contains text.toLower)

/-- Whether the environment insists on terminal attributes. A refusal, which is any text but the
empty one, goes before. -/
def wantsAttributes (environment : Environment) : Bool :=
  environment.plainOutput.getD "" == "" && environment.forcedColor.getD "0" != "0"

end Environment

def Options.withEnvironment (options : Options) (environment : Environment) :
    Except Stop Options := do
  let options ← match options.config, environment.config with
    | none, some path => options.setValue .config path
    | _, _ => .ok options
  return { options with
    verbose := options.verbose || Environment.isOn environment.verbose
    noColor := options.noColor || Environment.isOn environment.noColor }

def Options.ofArguments (arguments : List String) (environment : Environment) :
    Except Stop Options := do
  let options ← Options.readArguments {} none arguments
  options.withEnvironment environment

end TokenListing.Command
