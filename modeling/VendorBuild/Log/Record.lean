import VendorBuild.Log.Level

/-!
# Log records

A record has a level, a message and named values. As a line it is the three in this order, separated
by spaces; a message may run over several lines. Times are not measured, so a field that gives one
shows zero.
-/

namespace VendorBuild

/-- The value of a field. -/
inductive FieldValue where
  | text (value : String)
  | number (value : Nat)
  /-- The milliseconds that something took. -/
  | elapsed
deriving DecidableEq

/-- A value as a log line shows it. -/
def FieldValue.shown : FieldValue → String
  | text value => value
  | number value => toString value
  | elapsed => "0"

/-- A log record. -/
structure LogRecord where
  level : LogLevel
  message : String
  fields : List (String × FieldValue) := []
deriving DecidableEq

/-- A record as text. -/
def LogRecord.line (r : LogRecord) : String :=
  String.intercalate " "
    (r.level.label :: r.message :: r.fields.map fun (name, value) => name ++ "=" ++ value.shown)

/-- The least level that is let pass, none if nothing is. -/
abbrev LogFilter := Option LogLevel

namespace LogFilter

/-- Whether a filter lets records of a level pass. -/
def passes (filter : LogFilter) (level : LogLevel) : Bool :=
  match filter with
  | some least => least.rank ≤ level.rank
  | none => false

/-- The filter that a word asks for: a level or `off`, in capital or small letters. -/
def ofWord? (word : String) : Option LogFilter :=
  if Text.lowercase word = "off" then some none else (LogLevel.ofText? word).map some

/-- The filter that a directive asks for: a word, which may be preceded by the name of the program
    and an equals sign. Any other directive lets only errors pass. -/
def ofDirective (program directive : String) : LogFilter :=
  let word :=
    if (program ++ "=").toList.isPrefixOf directive.toList then
      String.ofList (directive.toList.drop (program.length + 1))
    else directive
  (ofWord? word).getD (some .error)

end LogFilter

end VendorBuild
