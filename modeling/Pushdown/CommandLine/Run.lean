import Pushdown.CommandLine.Arguments
import Pushdown.CommandLine.Variables
import Pushdown.Export
import Pushdown.Tables.Dataset
import Pushdown.Tables.Remote

/-!
# A run of the program

A run reads its settings, takes its dataset as a table beside those that the environment names,
carries out one statement, and writes the rows or their number. What a run sees of the machine is
its `Surroundings`; what it leaves behind is a `Report`. So a run is a function.
-/

namespace Pushdown.CommandLine

open Number Http

/-! ### What a run sees and leaves -/

/-- **What a run sees of the machine.** -/
structure Surroundings (σ : Type) where
  /-- The variables. -/
  environment : Environment
  /-- The text of a file, or why it cannot be read. -/
  contents : String → Except String String
  /-- Why a file cannot be written, if it cannot. -/
  writeFailure : String → Option String
  /-- The network. -/
  network : Network σ

/-- **What a run leaves behind.** -/
structure Report where
  /-- The exit code. -/
  exit : Nat
  /-- What is printed. -/
  stdout : String
  /-- What is printed about a failure. -/
  stderr : String
  /-- The file written, with its text. -/
  written : Option (String × String)
  deriving DecidableEq, Repr

/-- The report of a run that failed. -/
def Report.failure (message : String) : Report := ⟨1, "", "Error: " ++ message ++ "\n", none⟩

/-- The report of a run that printed. -/
def Report.printed (text : String) : Report := ⟨0, text, "", none⟩

/-! ### Information -/

/-- How the program is called. -/
def usage : String := "Usage: sqlbridge [OPTIONS] <DATASET> <SQL>\n"

/-- The help. -/
def helpText : String :=
  "Run one SQL statement against a JSON dataset " ++
    "and the API tables configured in the environment\n\n" ++
    usage ++ "\n" ++
    "Arguments:\n" ++
    "  <DATASET>  JSON file served as a local table named after its file stem\n" ++
    "  <SQL>      SQL statement to execute\n\n" ++
    "Options:\n" ++
    "      --json       Print rows as JSON lines instead of CSV\n" ++
    "      --out <OUT>  Write rows to a CSV file instead of stdout\n" ++
    "  -h, --help       Print help\n" ++
    "  -V, --version    Print version\n"

/-- The version. -/
def versionText : String := "sqlbridge 0.1.0\n"

/-- The words for a fault in the arguments. -/
def UsageError.message : UsageError → String
  | .help => "help was asked for"
  | .version => "the version was asked for"
  | .missing => "the dataset and the statement have to be given"
  | .unknown argument => "unexpected argument '" ++ argument ++ "'"
  | .badValue argument => "a value is required for " ++ argument
  | .extraValue argument => "unexpected value in '" ++ argument ++ "'"
  | .conflict argument => argument ++ " cannot be used multiple times"

/-- The report of a run that does not start. -/
def UsageError.report : UsageError → Report
  | .help => .printed helpText
  | .version => .printed versionText
  | e => ⟨2, "", "error: " ++ e.message ++ "\n\n" ++ usage, none⟩

/-! ### Settings -/

/-- A path inside a directory; inside no directory it is the name alone. -/
def inside (directory name : String) : String :=
  match directory.toList.reverse with
  | [] => name
  | '/' :: _ => directory ++ name
  | _ => directory ++ "/" ++ name

/-- The user's directory for settings: the one that is named if it is an absolute path, and else a
part of the home directory. -/
def userSettings? (environment : Environment) : Option String :=
  match environment "XDG_CONFIG_HOME" with
  | some directory =>
    match directory.toList with
    | '/' :: _ => some directory
    | _ => home?
  | none => home?
where
  /-- The part of the home directory. -/
  home? : Option String :=
    ((environment "HOME").filter fun h => !h.isEmpty).map fun h => inside h ".config"

/-- **The directory of the settings.** -/
def settingsDirectory (environment : Environment) : String :=
  match environment "SQLBRIDGE_CONFIG_DIR" with
  | some directory => directory
  | none =>
    match userSettings? environment with
    | some directory => inside directory "sqlbridge"
    | none => ".sqlbridge"

/-- The settings of a run. -/
def settingsOf {σ : Type} (s : Surroundings σ) : Settings :=
  Settings.load (s.contents (inside (settingsDirectory s.environment) "engine.json")).toOption
    s.environment

/-! ### The run -/

/-- The surroundings after the file of variables. -/
def Surroundings.prepared {σ : Type} (s : Surroundings σ) : Surroundings σ :=
  match s.contents ".env" with
  | .ok text => { s with environment := withVariables s.environment text }
  | .error _ => s

/-- **How an outcome is written.** A file to write to goes before JSON lines. -/
def write {σ : Type} (s : Surroundings σ) (a : Arguments) : Outcome → Report
  | .affected count => .printed (intText count ++ " rows affected\n")
  | .rows answer =>
    match a.out with
    | some path =>
      match s.writeFailure path with
      | some cause => .failure cause
      | none => ⟨0, "", "", some (path, answer.csv)⟩
    | none => .printed (if a.json then answer.jsonLines else answer.csv)

/-- The statement of a run, carried out. -/
def outcome {σ : Type} (s : Surroundings σ) (settings : Settings) (a : Arguments) :
    Action σ Outcome := do
  let dataset ← (Dataset.tableOfFile a.dataset (s.contents a.dataset) : Except QueryError (Table σ))
  let remote : Registry σ := Registry.withRemoteTables [] settings s.network s.environment
  (remote.register dataset).execute a.sql

/-- **A run.** -/
def run {σ : Type} (s : Surroundings σ) (arguments : List String) : StateM σ Report := do
  -- the file of variables may say where the settings are, so it is read first
  let s := s.prepared
  let settings := settingsOf s
  match Arguments.read arguments with
  | .error e => return e.report
  | .ok a =>
    match ← (outcome s settings a).run with
    | .ok result => return write s a result
    | .error e => return .failure e.message

end Pushdown.CommandLine
