import VendorBuild.Text.Quoted
import VendorBuild.Text.Utf8

/-!
# The value of a string literal

A literal between back quotes stands for its text without carriage returns. A literal between double
quotes is a sequence of items, each a character that stands for itself or an escape. Items give
bytes, and the bytes together have to be UTF-8, so two escapes can spell one character between them.

Results:
* `Literal.length_of_readItem`: an item takes at least one character.
-/

namespace VendorBuild

/-- Why a literal has no value, or none that can be imported. -/
inductive LiteralFault where
  | tooShort
  | backquoteInside
  | missingQuotes
  | newlineInside
  | quoteInside
  | backslashAtEnd
  | hexEscape
  | octalEscape
  | octalRange
  | codePointEscape
  | notCodePoint
  | unknownEscape
  | notUtf8
  | emptyPath
  /-- A character that no import path may hold. -/
  | illegalCharacter (c : Char)
deriving DecidableEq

/-- What is said of a literal with a fault. -/
def LiteralFault.message : LiteralFault → String
  | tooShort => "literal too short"
  | backquoteInside => "unexpected backquote"
  | missingQuotes => "missing quotes"
  | newlineInside => "newline in string"
  | quoteInside => "unescaped quote"
  | backslashAtEnd => "trailing backslash"
  | hexEscape => "invalid \\x escape"
  | octalEscape => "invalid octal escape"
  | octalRange => "octal escape out of range"
  | codePointEscape => "invalid unicode escape"
  | notCodePoint => "invalid unicode code point"
  | unknownEscape => "unknown escape sequence"
  | notUtf8 => "invalid UTF-8"
  | emptyPath => "empty import path"
  | illegalCharacter c => "invalid character " ++ Text.quotedChar c ++ " in import path"

namespace Literal

/-- The number that a digit shows in any base. -/
def digitNumber? (c : Char) : Option UInt32 :=
  if '0' ≤ c ∧ c ≤ '9' then some (c.val - '0'.val)
  else if 'a' ≤ c ∧ c ≤ 'f' then some (c.val - 'a'.val + 10)
  else if 'A' ≤ c ∧ c ≤ 'F' then some (c.val - 'A'.val + 10)
  else none

/-- The value of a digit in a base up to sixteen. -/
def digit? (base : UInt32) (c : Char) : Option UInt32 := (digitNumber? c).filter (· < base)

/-- Reads `count` digits that continue the number `value`, and what is left behind them. Numbers are
    words of 32 bits, in which too great a number would wrap around. -/
def readDigits (base value : UInt32) : Nat → List Char → Option (UInt32 × List Char)
  | 0, rest => some (value, rest)
  | _ + 1, [] => none
  | count + 1, c :: rest => do readDigits base (value * base + (← digit? base c)) count rest

/-- The byte that a backslash and one character stand for. -/
def simpleEscape? (c : Char) : Option UInt8 :=
  match c with
  | 'a' => some 0x07
  | 'b' => some 0x08
  | 'f' => some 0x0C
  | 'n' => some 0x0A
  | 'r' => some 0x0D
  | 't' => some 0x09
  | 'v' => some 0x0B
  | '\\' => some 0x5C
  | '"' => some 0x22
  | _ => none

/-- The bytes of the code point with the given number. -/
def codePointBytes (code : UInt32) : Except LiteralFault (List UInt8) :=
  if code.toNat.isValidChar then .ok (String.utf8EncodeChar (Char.ofNat code.toNat))
  else .error .notCodePoint

/-- Reads the escape that the character `c` behind a backslash starts: its bytes, and what is left.
-/
def readEscape (c : Char) (rest : List Char) : Except LiteralFault (List UInt8 × List Char) :=
  match simpleEscape? c with
  | some byte => .ok ([byte], rest)
  | none =>
    if c = 'x' then
      match readDigits 16 0 2 rest with
      | some (value, left) => .ok ([value.toUInt8], left)
      | none => .error .hexEscape
    else if c = 'u' ∨ c = 'U' then
      match readDigits 16 0 (if c = 'u' then 4 else 8) rest with
      | some (code, left) => (codePointBytes code).map fun bytes => (bytes, left)
      | none => .error .codePointEscape
    else
      match digit? 8 c with
      | none => .error .unknownEscape
      | some first =>
        match readDigits 8 0 2 rest with
        | some (more, left) =>
          if first * 64 + more ≤ 0xFF then .ok ([(first * 64 + more).toUInt8], left)
          else .error .octalRange
        | none => .error .octalEscape

/-- Reads one item from a body that starts with `c`: its bytes, and what is left. -/
def readItem (c : Char) (rest : List Char) : Except LiteralFault (List UInt8 × List Char) :=
  if c = '"' then .error .quoteInside
  else if c = '\\' then
    match rest with
    | [] => .error .backslashAtEnd
    | d :: rest => readEscape d rest
  else .ok (String.utf8EncodeChar c, rest)

theorem length_of_readDigits {base value code : UInt32} {count : Nat} {cs left : List Char}
    (h : readDigits base value count cs = some (code, left)) : left.length ≤ cs.length := by
  induction count generalizing value cs with
  | zero =>
    cases h
    exact Nat.le_refl _
  | succ count ih =>
    cases cs with
    | nil => cases h
    | cons c rest =>
      obtain ⟨d, _, h⟩ := Option.bind_eq_some_iff.1 h
      exact Nat.le_succ_of_le (ih h)

theorem length_of_readEscape {c : Char} {rest left : List Char} {bytes : List UInt8}
    (h : readEscape c rest = .ok (bytes, left)) : left.length ≤ rest.length := by
  unfold readEscape at h
  split at h
  · cases h
    exact Nat.le_refl _
  · split at h
    · split at h
      · rename_i hd
        cases h
        exact length_of_readDigits hd
      · cases h
    · split at h
      · split at h
        · rename_i hd
          unfold codePointBytes at h
          split at h
          · cases h
            exact length_of_readDigits hd
          · cases h
        · cases h
      · split at h
        · cases h
        · split at h
          · rename_i hd
            split at h
            · cases h
              exact length_of_readDigits hd
            · cases h
          · cases h

/-- An item takes at least one character. -/
theorem length_of_readItem {c : Char} {rest left : List Char} {bytes : List UInt8}
    (h : readItem c rest = .ok (bytes, left)) : left.length ≤ rest.length := by
  unfold readItem at h
  split at h
  · cases h
  · split at h
    · split at h
      · cases h
      · exact Nat.le_succ_of_le (length_of_readEscape h)
    · cases h
      exact Nat.le_refl _

/-- The bytes of the items of a body, or the first fault in it. -/
def itemBytes : List Char → Except LiteralFault (List UInt8)
  | [] => .ok []
  | c :: rest =>
    match _h : readItem c rest with
    | .error fault => .error fault
    | .ok (bytes, left) => (itemBytes left).map (bytes ++ ·)
termination_by body => body.length
decreasing_by exact Nat.lt_succ_of_le (length_of_readItem _h)

/-- The value of a body, every item of which is read. -/
def itemsValue (body : List Char) : Except LiteralFault String := do
  match Utf8.decode? (← itemBytes body) with
  | some value => .ok value
  | none => .error .notUtf8

/-- The value of a literal between double quotes, given what stands between them. A body without
    escapes is its own value. -/
def quotedValue (body : List Char) : Except LiteralFault String :=
  if '\n' ∈ body then .error .newlineInside
  else if '\\' ∈ body then itemsValue body
  else if '"' ∈ body then .error .quoteInside
  else .ok (String.ofList body)

/-- The value of a literal between back quotes, given what stands between them. -/
def rawValue (body : List Char) : Except LiteralFault String :=
  if '`' ∈ body then .error .backquoteInside
  else .ok (String.ofList (body.filter (· ≠ '\r')))

/-- What stands between two marks that start and end a text. -/
def between? (quote : Char) : List Char → Option (List Char)
  | [] => none
  | c :: rest => if c = quote ∧ rest.getLast? = some quote then some rest.dropLast else none

/-- The value of a literal. -/
def value (literal : String) : Except LiteralFault String :=
  if literal.utf8ByteSize < 2 then .error .tooShort
  else match between? '`' literal.toList with
    | some body => rawValue body
    | none => match between? '"' literal.toList with
      | some body => quotedValue body
      | none => .error .missingQuotes

end Literal

end VendorBuild
