import VendorBuild.Text.Lowercase

/-!
# Log levels

Results:
* `LogLevel.ofName?_name`: a level is found under its own name.
* `LogLevel.ofName?_eq_some_iff`: and under no other.
-/

namespace VendorBuild

/-- How much a log record matters, least first. -/
inductive LogLevel where
  | trace
  | debug
  | info
  | warn
  | error
deriving DecidableEq

namespace LogLevel

/-- The name of a level in settings. -/
def name : LogLevel → String
  | trace => "trace"
  | debug => "debug"
  | info => "info"
  | warn => "warn"
  | error => "error"

/-- The name of a level in log lines. -/
def label : LogLevel → String
  | trace => "TRACE"
  | debug => "DEBUG"
  | info => "INFO"
  | warn => "WARN"
  | error => "ERROR"

/-- The place of a level in their order. -/
def rank : LogLevel → Nat
  | trace => 0
  | debug => 1
  | info => 2
  | warn => 3
  | error => 4

/-- All levels in their order. -/
def all : List LogLevel := [trace, debug, info, warn, error]

/-- The level of a name. -/
def ofName? (text : String) : Option LogLevel := all.find? (·.name = text)

/-- The level of a name in capital or small letters. -/
def ofText? (text : String) : Option LogLevel := ofName? (Text.lowercase text)

/-- What is said of a text that names no level. -/
def unknownMessage (text : String) : String :=
  "Invalid log level '" ++ text ++
    "', defaulting to INFO. Valid levels: trace, debug, info, warn, error"

theorem ofName?_name (level : LogLevel) : ofName? level.name = some level := by
  cases level <;> decide

/-- A level is found under its own name only. -/
theorem ofName?_eq_some_iff {text : String} {level : LogLevel} :
    ofName? text = some level ↔ text = level.name := by
  constructor
  · intro h
    simpa [eq_comm] using List.find?_some h
  · rintro rfl
    exact ofName?_name level

end LogLevel

end VendorBuild
