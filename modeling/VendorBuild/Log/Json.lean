import VendorBuild.Log.Record
import VendorBuild.Text.Hexadecimal

/-!
# Log records as JSON

A record as an object on one line: its level, and its fields with the message first. Numbers are
written as numbers.
-/

namespace VendorBuild.Json

/-- A character as it is written in a quoted text. -/
def escape (c : Char) : List Char :=
  if c = '"' then ['\\', '"']
  else if c = '\\' then ['\\', '\\']
  else if c = '\n' then ['\\', 'n']
  else if c = '\r' then ['\\', 'r']
  else if c = '\t' then ['\\', 't']
  else if c.toNat < 0x20 then '\\' :: 'u' :: Text.hexDigits 4 c.toNat
  else [c]

/-- A text in quotes. -/
def quote (s : String) : String := String.ofList ('"' :: (s.toList.flatMap escape ++ ['"']))

/-- The value of a field. -/
def value : FieldValue → String
  | .text value => quote value
  | .number value => toString value
  | .elapsed => "0"

/-- The members of an object. -/
def object (members : List (String × String)) : String :=
  "\x7b" ++ String.intercalate "," (members.map fun (name, value) => quote name ++ ":" ++ value) ++
    "\x7d"

/-- A record as an object. -/
def record (r : LogRecord) : String :=
  object
    [("level", quote r.level.label),
      ("fields", object (("message", quote r.message) :: r.fields.map fun (name, v) => (name, value v)))]

end VendorBuild.Json
