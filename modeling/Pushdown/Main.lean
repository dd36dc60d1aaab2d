import Pushdown.CommandLine.Run

/-!
# The program

The outer layer of a run: it looks up variables, reads and writes files, prints, and ends with the
exit code. No network is reached from here, so tables of remote sides report that nothing gets
through.
-/

namespace Pushdown

open CommandLine Http

/-- The words for a failure of a file. -/
def fileFailure : IO.Error → String
  | .noFileOrDirectory .. => "No such file or directory (os error 2)"
  | .permissionDenied .. => "Permission denied (os error 13)"
  | .inappropriateType .. => "Is a directory (os error 21)"
  | e => toString e

/-- The text of a file, or why it cannot be read. -/
def contentsOf (path : String) : IO (Except String String) := do
  try
    return .ok (← IO.FS.readFile path)
  catch e => return .error (fileFailure e)

/-- Writes a file, and says why it cannot be written. -/
def writeTo (path text : String) : IO (Option String) := do
  try
    IO.FS.writeFile path text
    return none
  catch e => return some (fileFailure e)

/-- The variables that a run looks at. -/
def knownVariables : List String :=
  ["SQLBRIDGE_CONFIG_DIR", "SQLBRIDGE_DEFAULT_LIMIT", "SQLBRIDGE_HTTP_TIMEOUT_SECS",
    "SQLBRIDGE_LOG", "XDG_CONFIG_HOME", "HOME", "YOUTUBE_API_KEY", "CRYPTOPANIC_API_TOKEN",
    "MILVUS_URI", "MILVUS_COLLECTIONS", "MILVUS_TOKEN"]

/-- The values of variables. -/
def environmentNow : IO Environment := do
  let found ← knownVariables.mapM fun name => do return (name, ← IO.getEnv name)
  return fun name => (found.find? (·.1 == name)).bind (·.2)

/-- The texts of files by their paths. -/
def filesNow (paths : List String) : IO (String → Except String String) := do
  let found ← paths.mapM fun path => do return (path, ← contentsOf path)
  return fun path =>
    match found.find? (·.1 == path) with
    | some (_, content) => content
    | none => .error "No such file or directory (os error 2)"

/-- The surroundings of a run, as far as the arguments can ask for them. -/
def surroundingsNow (arguments : List String) : IO (Surroundings Unit) := do
  let bare : Surroundings Unit := {
    environment := ← environmentNow
    contents := ← filesNow [".env"]
    writeFailure := fun _ => none
    network := Network.offline }
  let settings := inside (settingsDirectory bare.prepared.environment) "engine.json"
  let dataset := (Arguments.read arguments).toOption.map (·.dataset)
  return { bare with contents := ← filesNow ([".env", settings] ++ dataset.toList) }

end Pushdown

open Pushdown CommandLine in
/-- Runs the program. -/
def main (arguments : List String) : IO UInt32 := do
  let s ← surroundingsNow arguments
  let (report, _) := (CommandLine.run s arguments).run ()
  let failure ← match report.written with
    | some (path, text) => writeTo path text
    | none => pure none
  let report := (failure.map Report.failure).getD report
  (← IO.getStdout).putStr report.stdout
  (← IO.getStderr).putStr report.stderr
  return report.exit.toUInt32
