import TokenListing.Event
import TokenListing.Terminal

/-! # Log lines

Events are shown as lines of a log, one each, in plain text or with terminal colours. A filter
picks the events to show: of its directives the one that names the origin of the event most
closely decides how important the event has to be.
-/
namespace TokenListing.Command

def originName : Event.Origin → String
  | .lexer => "minc_lex"
  | .driver => "minc_drv"

structure Directive where
  target : String
  greatestRank : Nat
  deriving DecidableEq, Repr

namespace Directive

def rankOf? (level : String) : Option Nat :=
  match level.toLower with
  | "off" | "0" => some 0
  | "error" | "1" => some 1
  | "warn" | "2" => some 2
  | "info" | "3" => some 3
  | "debug" | "4" => some 4
  | "trace" | "5" => some 5
  | _ => none

def everything : Nat := 5

def isTarget (name : String) : Bool :=
  name != "" && name.toList.all fun c => c.isAlphanum || c == '_' || c == ':' || c == '-'

/-- A directive: a level, a target, or both with an equals sign between them. A target without
a level shows everything of it. -/
def ofText? (text : String) : Option Directive :=
  match text.splitOn "=" with
  | [word] =>
    match rankOf? word with
    | some rank => some ⟨"", rank⟩
    | none => if isTarget word then some ⟨word, everything⟩ else none
  | [target, level] =>
    if isTarget target then
      if level = "" then some ⟨target, everything⟩
      else (rankOf? level).map (Directive.mk target)
    else none
  | _ => none

def concerns (directive : Directive) (origin : Event.Origin) : Bool :=
  (originName origin).startsWith directive.target

end Directive

abbrev LogFilter := List Directive

namespace LogFilter

def upTo (level : Event.Level) : LogFilter :=
  [⟨"", level.rank⟩]

/-- The filter with directives separated by commas. Without any directive only errors are
shown. -/
def ofText? (text : String) : Option LogFilter := do
  let directives ← ((text.splitOn ",").filter (· != "")).mapM Directive.ofText?
  return if directives.isEmpty then [⟨"", 1⟩] else directives

/-- The filter that a variable asks for. Without it, or if it is no filter, the verbose option
decides. -/
def choose (wanted : Option String) (verbose : Bool) : LogFilter :=
  (wanted.bind ofText?).getD (upTo (if verbose then .debug else .info))

def closest (filter : LogFilter) (origin : Event.Origin) : Option Directive :=
  (filter.filter (·.concerns origin)).foldl (fun best directive =>
    match best with
    | some found =>
      if directive.target.length < found.target.length then some found else some directive
    | none => some directive) none

def shows (filter : LogFilter) (event : Event) : Bool :=
  (filter.closest event.origin).any fun directive => event.level.rank ≤ directive.greatestRank

end LogFilter

def colorOf : Event.Level → String
  | .trace => "35"
  | .debug => "34"
  | .info => "32"
  | .warn => "33"

def paddedName (level : Event.Level) : String :=
  String.ofList (List.replicate (5 - level.name.length) ' ') ++ level.name

def logLine (color : Bool) (time : String) (event : Event) : String :=
  let style (code text : String) :=
    if color then Terminal.styled [code] text else text
  let field : String × String → String
    | (name, value) => " " ++ style "3" name ++ style "2" "=" ++ value
  style "2" time ++ " " ++ style (colorOf event.level) (paddedName event.level) ++ " " ++
    event.message ++ String.join (event.fields.map field) ++ "\n"

def logText (filter : LogFilter) (color : Bool) (time : String) (events : List Event) : String :=
  String.join ((events.filter filter.shows).map (logLine color time))

end TokenListing.Command
