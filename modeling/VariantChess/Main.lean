import VariantChess.CommandLine.Run

/-!
# The command line

Reads the files and the environment that a run needs, and writes what it comes to: the answer to the
output, errors and logged events to the error stream, events also into a log file if the settings name
one.
-/

open VariantChess

/-- The files among these paths that exist. -/
def readFiles (paths : List String) : IO Files := do
  let mut entries := []
  for path in paths do
    let content ← (IO.FS.readFile path).toBaseIO
    if let .ok text := content then entries := (path, text) :: entries
  return { entries }

/-- Writes the events of a run. -/
def writeLog (run : CommandLine.Run) : IO Unit := do
  if let some logging := run.logging then
    let lines := logging.lines run.events
    for line in lines do IO.eprintln line
    if let some path := logging.file then
      IO.FS.createDirAll (parentPath path)
      let log ← IO.FS.Handle.mk path .append
      for line in lines do log.putStrLn line

def main (args : List String) : IO UInt32 := do
  let env : Environment :=
    { logLevel := (← IO.getEnv "FAIRYBOARD_LOG_LEVEL").getD ""
      ruleset := (← IO.getEnv "FAIRYBOARD_RULESET").getD "" }
  let settingsFile ← readFiles (CommandLine.filesNamed {} env args)
  let files ← readFiles (CommandLine.filesNamed settingsFile env args)
  let run := CommandLine.run files env args
  writeLog run
  match run.result with
  | .ok lines =>
    for line in lines do IO.println line
    return 0
  | .error .usage =>
    IO.eprintln "usage: [--log-level LEVEL] [--config FILE] (show | moves | perft | status) ..."
    return 2
  | .error (.error e) =>
    IO.eprintln s!"Error: {e.message}"
    return 1
