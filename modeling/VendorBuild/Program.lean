import VendorBuild.Log.Json
import VendorBuild.Options
import VendorBuild.Run

/-!
# The program

What the command does with its arguments, its environment and the tree it is started in: the exit
code, what it prints, what it logs, and the tree it leaves behind.

Results:
* `generate_invalid`: settings that do not pass stop a run before it touches the tree.
-/

namespace VendorBuild

/-- The name of the program. -/
def programName : String := "buckify"

/-- Its version. -/
def programVersion : String := "0.1.0"

/-- The text of the short help. -/
def shortHelp : String :=
  "Generates BUCK files for the Go packages vendored under ./vendor\n\n" ++
  "Usage: buckify [OPTIONS]\n\n" ++
  "Options:\n" ++
  "      --log-level <LEVEL>  Set logging level\n" ++
  "  -v, --verbose            Enable debug logging\n" ++
  "  -q, --quiet              Quiet mode - only log errors\n" ++
  "  -h, --help               Print help (see more with '--help')\n" ++
  "  -V, --version            Print version\n"

/-- The text of the long help. -/
def longHelp : String :=
  "buckify scans ./vendor relative to the current directory, parses the package clause and " ++
  "imports of every non-test Go file, and writes a go_library rule to a BUCK file in each " ++
  "package directory. Dependencies on other vendored packages are listed as " ++
  "//vendor/<import path>:<name>; all other imports are ignored. Existing BUCK files are " ++
  "overwritten.\n\n" ++
  "Usage: buckify [OPTIONS]\n\n" ++
  "Options:\n" ++
  "      --log-level <LEVEL>\n          Set logging level\n\n" ++
  "  -v, --verbose\n          Enable debug logging\n\n" ++
  "  -q, --quiet\n          Quiet mode - only log errors\n\n" ++
  "  -h, --help\n          Print help (see a summary with '-h')\n\n" ++
  "  -V, --version\n          Print version\n"

/-- The text that the version option prints. -/
def versionText : String := programName ++ " " ++ programVersion ++ "\n"

/-- The text that the help option prints. -/
def helpText (long : Bool) : String := if long then longHelp else shortHelp

/-- What a checked run leaves behind. -/
structure Generation (σ : Type) where
  exitCode : Nat
  records : List LogRecord
  state : σ

/-- The record of a failure. -/
def failureRecord (message : String) : LogRecord :=
  ⟨.error, programName ++ " failed", [("error", .text message)]⟩

/-- Checks the settings and runs. -/
def generate {σ : Type} (fs : Storage σ) (settings : Settings) (s : σ) : Generation σ :=
  match settings.check with
  | .error fault => ⟨1, [failureRecord fault.message], s⟩
  | .ok () =>
    let o := run fs settings s
    let records := ⟨.debug, settings.summary, []⟩ :: o.records
    match o.result with
    | .ok report =>
      let done : LogRecord :=
        ⟨.debug, "Run complete", [("count", .number report.length), ("total_time_ms", .elapsed)]⟩
      ⟨0, records ++ [done], o.state⟩
    | .error fault => ⟨1, records ++ [failureRecord fault.message], o.state⟩

/-- The variables of the environment that the program reads. -/
structure Environment where
  /-- A directive that replaces the filter by level. -/
  filter : Option String := none
  level : Option String := none
  json : Option String := none

/-- What is written to the log. -/
inductive Notice where
  /-- A line that no filter holds back. -/
  | plain (text : String)
  | record (r : LogRecord)
deriving DecidableEq

/-- A notice as it is written. -/
def Notice.text (json : Bool) : Notice → String
  | plain text => text
  | record r => if json then Json.record r else r.line

/-- How the program ends. -/
structure ProgramOutcome (σ : Type) where
  exitCode : Nat
  output : String
  notices : List Notice
  /-- Whether records are written as JSON. -/
  json : Bool
  state : σ

/-- The settings of a run: those of the environment, except for a level that the options ask for. -/
def settingsOf (root : Path) (env : Environment) (options : Options) : Settings :=
  let settings := Settings.ofEnvironment root env.level env.json
  match options.requestedLevel with
  | some level => { settings with logLevel := Text.lowercase level }
  | none => settings

/-- The filter of a run: the directive of the environment, or else the level of the settings. -/
def filterOf (env : Environment) (settings : Settings) : LogFilter :=
  match env.filter with
  | some directive => .ofDirective programName directive
  | none => some settings.level

/-- What is said before a run: that the level is unknown, if it is. -/
def levelNotices (settings : Settings) : List Notice :=
  if (LogLevel.ofText? settings.logLevel).isNone then
    [.plain (LogLevel.unknownMessage settings.logLevel)]
  else []

/-- The records with which a run starts. -/
def startRecords (options : Options) : List LogRecord :=
  [⟨.debug, programName ++ " v" ++ programVersion ++ " starting", []⟩,
    ⟨.debug, "Arguments: " ++ options.shown, []⟩]

/-- What the program does, started in the directory `root`. -/
def runProgram {σ : Type} (fs : Storage σ) (root : Path) (env : Environment)
    (arguments : List String) (s : σ) : ProgramOutcome σ :=
  match Request.ofArguments arguments with
  | .error fault => ⟨2, "", [.plain ("error: " ++ fault.message)], false, s⟩
  | .ok (.help long) => ⟨0, helpText long, [], false, s⟩
  | .ok .version => ⟨0, versionText, [], false, s⟩
  | .ok (.run options) =>
    let settings := settingsOf root env options
    let filter := filterOf env settings
    let g := generate fs settings s
    let records := (startRecords options ++ g.records).filter (filter.passes ·.level)
    ⟨g.exitCode, "", levelNotices settings ++ records.map .record, settings.logJson, g.state⟩

/-- Settings that do not pass stop a run before it touches the tree. -/
theorem generate_invalid {σ : Type} {fs : Storage σ} {settings : Settings} {s : σ}
    {fault : SettingsFault} (h : settings.check = .error fault) :
    (generate fs settings s).state = s ∧ (generate fs settings s).exitCode = 1 := by
  simp [generate, h]

end VendorBuild
