import VendorBuild.Text.Invisible

/-!
# Diagnostic quoting

Messages show a text between double quotes and a character between single ones, so that it can be
read off exactly: the quote in use and the backslash are escaped, the common control characters have
short names, and every other invisible character is spelled as its code point.
-/

namespace VendorBuild.Text

/-- The code point of a character in a diagnostic, in hexadecimal without leading zeros. -/
def spelled (c : Char) : String :=
  "\\u\x7b" ++ String.ofList (Nat.toDigits 16 c.toNat) ++ "\x7d"

/-- A character inside quotes of the kind `quote`. -/
def shown (quote c : Char) : String :=
  if c = quote || c = '\\' then String.ofList ['\\', c]
  else if c = '\x00' then "\\0"
  else if c = '\t' then "\\t"
  else if c = '\r' then "\\r"
  else if c = '\n' then "\\n"
  else if isInvisible c then spelled c
  else String.singleton c

/-- A text between double quotes. -/
def quoted (s : String) : String := "\"" ++ String.join (s.toList.map (shown '"')) ++ "\""

/-- A character between single quotes. -/
def quotedChar (c : Char) : String := "'" ++ shown '\'' c ++ "'"

end VendorBuild.Text
