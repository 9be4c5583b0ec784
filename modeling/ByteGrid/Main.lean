import ByteGrid.CommandLine.Reader
import ByteGrid.Run

namespace ByteGrid

def usageText : String :=
  "Usage: [OPTIONS] COMMAND\n\n" ++
  "  locate FILE LINE                 print the struct around a line\n" ++
  "  layout FILE LINE [-p PACK] [-s FILES]\n" ++
  "                                   print its memory layout as JSON\n" ++
  "  render FILE [-s SCALE] [--policy POLICY] [--no-tail-padding]\n" ++
  "                                   draw a layout\n" ++
  "  visualize FILE LINE [-p PACK] [-s SCALE] [--policy POLICY] [--no-tail-padding]\n" ++
  "            [--search FILES]       lay out and draw in one step\n\n" ++
  "Options: -l LEVEL, -q, --no-color, -c FILE, --json, -h, -V\n"

def versionText : String := "1.0.0\n"

def UsageError.report (e : UsageError) : Report :=
  match e with
  | .help => { exitCode := e.exitCode, output := usageText, errors := "" }
  | .version => { exitCode := e.exitCode, output := versionText, errors := "" }
  | e => { exitCode := e.exitCode, output := "", errors := "error: " ++ e.message ++ "\n\n" ++ usageText }

def FileError.ofCode (code : UInt32) : Except FileError Entry :=
  if code = 21 then .ok .folder
  else if code = 20 then .error .notFolder
  else if code = 36 then .error .nameTooLong
  else .error .notFound

def lookAt (path : String) : IO (String × Except FileError Entry) := do
  try
    return (path, .ok (.file (← IO.FS.readBinFile path)))
  catch
    | .inappropriateType _ code _ => return (path, FileError.ofCode code)
    | .invalidArgument _ code _ => return (path, FileError.ofCode code)
    | _ => return (path, .error .notFound)

def Invocation.surroundings (i : Invocation) : IO Surroundings := do
  let config ← IO.getEnv configVariable
  let force ← IO.getEnv "CLICOLOR_FORCE"
  let refuse ← IO.getEnv "NO_COLOR"
  let wish ← IO.getEnv "CLICOLOR"
  let terminal ← (← IO.getStdout).isTty
  let errorTerminal ← (← IO.getStderr).isTty
  let paths := i.command.paths ++ i.config.toList ++ config.toList
  return {
    files := .ofList (← paths.mapM lookAt)
    config
    colors := wantsColors force refuse wish terminal
    noteColors := wantsNoteColors force refuse wish errorTerminal }

def runCommandLine (arguments : List String) : IO Report := do
  match Invocation.read arguments with
  | .error e => return e.report
  | .ok i => return i.run (← i.surroundings)

end ByteGrid

def main (arguments : List String) : IO UInt32 := do
  let report ← ByteGrid.runCommandLine arguments
  IO.print report.output
  IO.eprint report.errors
  return report.exitCode.toUInt32
