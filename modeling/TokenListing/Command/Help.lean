import TokenListing.Command.Options
import TokenListing.Terminal

/-! # Help about the command

The explanation of the command tells what the variables of the environment hold. Its headings and
the words to be typed as they stand are set off by attributes, which are left out unless the
environment insists on them, since the standard output is taken to be no terminal.
-/
namespace TokenListing.Command

def heading (text : String) : String :=
  Terminal.styled ["1", "4"] text

def literal (text : String) : String :=
  Terminal.styled ["1"] text

/-- A variable and its text as the explanation of an option shows them; further lines of the text
are indented like the first. -/
def variableText (name : String) (value : Option String) : String :=
  "[env: " ++ name ++ "=" ++ (value.getD "").replace "\n" "\n          " ++ "]"

def helpLines (environment : Environment) : List String :=
  ["Lists the tokens of a minc source file",
    "",
    heading "Usage:" ++ " " ++ literal "minc" ++ " [OPTIONS] [INPUT]",
    "",
    heading "Arguments:",
    "  [INPUT]  Source file to read (default: standard input, also with \"-\")",
    "",
    heading "Options:",
    "  " ++ literal "-v" ++ ", " ++ literal "--verbose",
    "          Enable verbose output " ++ variableText "MINC_VERBOSE" environment.verbose,
    "  " ++ literal "-c" ++ ", " ++ literal "--config" ++ " <CONFIG>",
    "          Path to configuration file " ++ variableText "MINC_CONFIG" environment.config,
    "      " ++ literal "--no-color",
    "          Disable color output " ++ variableText "MINC_NO_COLOR" environment.noColor,
    "      " ++ literal "--chunk-capacity" ++ " <CHUNK_CAPACITY>",
    "          Size in bytes of each input chunk (overrides the configuration)",
    "  " ++ literal "-h" ++ ", " ++ literal "--help",
    "          Print help",
    "  " ++ literal "-V" ++ ", " ++ literal "--version",
    "          Print version"]

def help (environment : Environment) : ByteArray :=
  let text := String.join ((helpLines environment).map (· ++ "\n"))
  if environment.wantsAttributes then text.toUTF8 else Terminal.plainBytes text

def versionText : String := "minc 0.1.0\n"

end TokenListing.Command
