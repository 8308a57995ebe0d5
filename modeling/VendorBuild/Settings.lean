import VendorBuild.Log.Level
import VendorBuild.Path
import VendorBuild.Text.Quoted

/-!
# Settings

What a run is told: where the vendored tree lies, how build files are called, which cell the labels
name, and how to log. Settings are checked as a whole before a run, in the order of their fields,
and the first fault is the one reported.

Results:
* `Settings.check_eq_ok_iff`: which settings pass.
-/

namespace VendorBuild

/-- What a run is told. -/
structure Settings where
  /-- The directory that holds the vendor directory. -/
  root : Path
  /-- The name of the vendor directory. -/
  vendorName : String := "vendor"
  /-- The name of the file written for each package. -/
  buildFileName : String := "BUCK"
  /-- The path behind the two slashes with which labels start. -/
  cell : String := "vendor"
  /-- The name of the least level that is logged. -/
  logLevel : String := "info"
  /-- Whether log records are written as JSON objects. -/
  logJson : Bool := false
deriving DecidableEq

/-- Why settings do not pass. -/
inductive SettingsFault where
  | vendorName (text : String)
  | buildFileName (text : String)
  | cell (text : String)
  | logLevel (text : String)
deriving DecidableEq

/-- What is said of settings that do not pass. -/
def SettingsFault.message : SettingsFault → String
  | vendorName text =>
    "Configuration validation failed: Vendor directory name must be a single path segment: " ++
      Text.quoted text
  | buildFileName text =>
    "Configuration validation failed: Build file name must be a single path segment: " ++
      Text.quoted text
  | cell text =>
    "Configuration validation failed: " ++
      "Cell prefix must be non-empty without leading or trailing '/': " ++ Text.quoted text
  | logLevel text =>
    "Configuration validation failed: Invalid log level: " ++ text ++
      ". Valid options: trace, debug, info, warn, error"

/-- Whether a text is not empty and holds neither kind of slash. -/
def isSingleSegment (text : String) : Bool :=
  text ≠ "" && !text.toList.contains '/' && !text.toList.contains '\\'

theorem isSingleSegment_iff {text : String} :
    isSingleSegment text = true ↔ text ≠ "" ∧ '/' ∉ text.toList ∧ '\\' ∉ text.toList := by
  simp [isSingleSegment, and_assoc]

/-- The names of levels that pass. -/
def levelNames : List String := ["trace", "debug", "info", "warn", "error"]

/-- Whether a text is not empty and neither starts nor ends with a slash. -/
def isCell (text : String) : Bool :=
  text ≠ "" && text.toList.head? ≠ some '/' && text.toList.getLast? ≠ some '/'

namespace Settings

/-- The vendor directory. -/
def vendorDir (s : Settings) : Path := s.root / s.vendorName

/-- Passes the settings or reports their first fault. -/
def check (s : Settings) : Except SettingsFault Unit :=
  if !isSingleSegment s.vendorName then .error (.vendorName s.vendorName)
  else if !isSingleSegment s.buildFileName then .error (.buildFileName s.buildFileName)
  else if !isCell s.cell then .error (.cell s.cell)
  else if !levelNames.contains s.logLevel then .error (.logLevel s.logLevel)
  else .ok ()

/-- The level from which records are logged. A name that is unknown counts as `info`. -/
def level (s : Settings) : LogLevel := (LogLevel.ofText? s.logLevel).getD .info

/-- The settings that the environment gives for a root: the name of a level, in capital or small
    letters, and whether to log as JSON, which only the word `true` asks for. -/
def ofEnvironment (root : Path) (level json : Option String) : Settings :=
  { root, logLevel := Text.lowercase (level.getD "info"), logJson := json = some "true" }

/-- The settings as a log shows them. -/
def summary (s : Settings) : String :=
  "Buckify Configuration:\n" ++
  "  Root: " ++ s.root.text ++ "\n" ++
  "  Vendor Dir: " ++ s.vendorDir.text ++ "\n" ++
  "  Build File: " ++ s.buildFileName ++ "\n" ++
  "  Cell Prefix: //" ++ s.cell ++ "\n" ++
  "  Log Level: " ++ s.logLevel ++ "\n" ++
  "  Log JSON: " ++ toString s.logJson ++ "\n"

/-- Settings pass exactly if both names are single segments, the cell does not begin or end with a
    slash, and the level is known. -/
theorem check_eq_ok_iff {s : Settings} :
    s.check = .ok () ↔
      isSingleSegment s.vendorName = true ∧ isSingleSegment s.buildFileName = true ∧
        isCell s.cell = true ∧ levelNames.contains s.logLevel = true := by
  unfold check
  cases isSingleSegment s.vendorName <;> cases isSingleSegment s.buildFileName <;>
    cases isCell s.cell <;> cases levelNames.contains s.logLevel <;> simp

end Settings

end VendorBuild
