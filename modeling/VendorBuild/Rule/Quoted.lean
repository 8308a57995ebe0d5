import VendorBuild.Text.Blank
import VendorBuild.Text.Hexadecimal

/-!
# Quoted attribute values

A build file writes text between double quotes. Printable characters stand for themselves; the quote
and the backslash are escaped; control characters with a short name use it; every other character is
written with two, four or eight hexadecimal digits. Every value can be written, and stays on one
line.
-/

namespace VendorBuild.Quoted

open Text

/-- The format characters, which change how their neighbours are shown and do not show themselves.
-/
def formatRanges : CodeRanges :=
  [(0xAD, 0xAD), (0x600, 0x605), (0x61C, 0x61C), (0x6DD, 0x6DD), (0x70F, 0x70F), (0x890, 0x891),
    (0x8E2, 0x8E2), (0x180E, 0x180E), (0x200B, 0x200F), (0x2028, 0x202E), (0x2060, 0x2064),
    (0x2066, 0x206F), (0xFEFF, 0xFEFF), (0xFFF9, 0xFFFB), (0x110BD, 0x110BD), (0x110CD, 0x110CD),
    (0x13430, 0x1343F), (0x1BCA0, 0x1BCA3), (0x1D173, 0x1D17A), (0xE0001, 0xE0001),
    (0xE0020, 0xE007F)]

/-- The code points set aside for private use. -/
def privateRanges : CodeRanges := [(0xE000, 0xF8FF), (0xF0000, 0xFFFFD), (0x100000, 0x10FFFD)]

/-- Whether a code point is one of those that are never characters: a block of thirty-two, and the
    last two of every plane. -/
def isNoncharacter (n : Nat) : Bool := (0xFDD0 ≤ n && n ≤ 0xFDEF) || 0xFFFE ≤ n % 0x10000

/-- Whether a character is written as itself. -/
def isPrintable (c : Char) : Bool :=
  c = ' ' ||
    !(isControl c || isBlank c || formatRanges.contains c.toNat || privateRanges.contains c.toNat ||
      isNoncharacter c.toNat)

/-- The short name that stands behind the backslash for a character. -/
def shortName? (c : Char) : Option Char :=
  if c = '"' then some '"'
  else if c = '\\' then some '\\'
  else if c = '\x07' then some 'a'
  else if c = '\x08' then some 'b'
  else if c = '\x0c' then some 'f'
  else if c = '\n' then some 'n'
  else if c = '\r' then some 'r'
  else if c = '\t' then some 't'
  else if c = '\x0b' then some 'v'
  else none

/-- A character as it is written between the quotes. -/
def escape (c : Char) : List Char :=
  match shortName? c with
  | some name => ['\\', name]
  | none =>
    if isPrintable c then [c]
    else if c.toNat < 0x80 then '\\' :: 'x' :: hexDigits 2 c.toNat
    else if c.toNat < 0x10000 then '\\' :: 'u' :: hexDigits 4 c.toNat
    else '\\' :: 'U' :: hexDigits 8 c.toNat

/-- A text as an attribute value. -/
def quote (s : String) : String :=
  String.ofList ('"' :: (s.toList.flatMap escape ++ ['"']))

end VendorBuild.Quoted
