import VendorBuild.Text.Ranges

/-!
# White space and control characters

The property White_Space, and the general category Cc of the two blocks of control codes.
-/

namespace VendorBuild.Text

/-- The ranges of the property White_Space. -/
def blankRanges : CodeRanges :=
  [(0x9, 0xD), (0x20, 0x20), (0x85, 0x85), (0xA0, 0xA0), (0x1680, 0x1680), (0x2000, 0x200A),
   (0x2028, 0x2029), (0x202F, 0x202F), (0x205F, 0x205F), (0x3000, 0x3000)]

/-- Whether a character is white space, line breaks included. -/
def isBlank (c : Char) : Bool := blankRanges.contains c.toNat

/-- Whether a character is a control code. -/
def isControl (c : Char) : Bool := c.toNat < 0x20 || (0x7F ≤ c.toNat && c.toNat < 0xA0)

end VendorBuild.Text
