import TokenListing.Command.Run

/-! # The command

The arguments, the environment, the two files and the standard streams are fetched and handed
over; everything that is decided is decided by the pure functions they are handed to.
-/
namespace TokenListing.Main

def entryAt (path : String) : IO Entry := do
  try
    let bytes ← IO.FS.readBinFile path
    return .file bytes.data.toList
  catch
    | .noFileOrDirectory .. => return .missing Entry.noSuchFile
    | .inappropriateType _ code _ =>
      return if code = 21 then .directory else .missing Entry.notADirectory
    | .permissionDenied .. =>
      return .locked ⟨.permissionDenied, "Permission denied (os error 13)"⟩
    | error => return .locked ⟨.other, toString error⟩

def standardInput : IO Entry := do
  let bytes ← (← IO.getStdin).readBinToEnd
  return .file bytes.data.toList

def uptime : IO String := do
  let milliseconds ← IO.monoMsNow
  let fraction := toString (milliseconds % 1000)
  let zeros := String.ofList (List.replicate (3 - fraction.length) '0')
  return toString (milliseconds / 1000) ++ "." ++ zeros ++ fraction ++ "s"

def environment : IO Command.Environment := do
  let verbose ← IO.getEnv "MINC_VERBOSE"
  let config ← IO.getEnv "MINC_CONFIG"
  let noColor ← IO.getEnv "MINC_NO_COLOR"
  let log ← IO.getEnv "RUST_LOG"
  let plainOutput ← IO.getEnv "NO_COLOR"
  let forcedColor ← IO.getEnv "CLICOLOR_FORCE"
  return { verbose, config, noColor, log, plainOutput, forcedColor }

/-- The report on a run with the arguments. The input is not touched before the settings are
known. -/
def report (arguments : List String) : IO Command.Report := do
  let environment ← environment
  match Command.Options.ofArguments arguments environment with
  | .error stop => return .ofStop environment stop
  | .ok options =>
    let configEntry ← entryAt (Config.pathOf options.config)
    match options.settings configEntry with
    | .error error => return .ofError (.config error)
    | .ok config =>
      let entry ← options.inputPath?.elim standardInput entryAt
      return Command.listEntry options config environment.log (← uptime) entry

end TokenListing.Main

def main (arguments : List String) : IO UInt32 := do
  let report ← TokenListing.Main.report arguments
  (← IO.getStdout).write report.stdout
  (← IO.getStderr).putStr report.stderr
  return report.exitCode.toUInt32
