import VendorBuild.Text.Hexadecimal
import VendorBuild.Text.Quoted
import VendorBuild.Text.Utf8

/-!
# Raw texts

A name of a file is a text as the operating system keeps it: bytes, which may be the UTF-8 of a text
and need not be. Read as text, each run of bytes that spells no character becomes a replacement
character, so different raw texts can read the same.
-/

namespace VendorBuild

/-- A text as the operating system keeps it. -/
structure RawText where
  bytes : List UInt8
deriving DecidableEq

namespace RawText

/-- A text in UTF-8. -/
@[coe]
def ofString (s : String) : RawText := ⟨Utf8.encode s⟩

instance : Coe String RawText := ⟨ofString⟩

instance : Append RawText := ⟨fun a b => ⟨a.bytes ++ b.bytes⟩⟩

/-- What a raw text reads as, with a replacement character for each run of bytes that is not UTF-8.
-/
def text (r : RawText) : String := Utf8.decodeLossy r.bytes

/-- Different raw texts can read the same. -/
example : (⟨[0xFE]⟩ : RawText).text = (⟨[0xFF]⟩ : RawText).text := by decide +kernel

/-- The byte that separates the parts of a path. -/
def slash : UInt8 := 0x2F

/-- The stretches of a raw text between slashes, empty ones included. -/
def segments (r : RawText) : List RawText := (r.bytes.splitOn slash).map mk

/-! ## In diagnostics -/

/-- A byte that is no part of a character. -/
def shownByte (b : UInt8) : String :=
  "\\x" ++ String.ofList ((Text.hexDigits 2 b.toNat).map Char.toUpper)

/-- Bytes inside double quotes: the characters as in a text, and of what is not UTF-8 every byte. -/
def shownBytes : List UInt8 → String
  | [] => ""
  | b :: rest =>
    let left := (Utf8.readUnit b rest).2
    let unit := match (Utf8.readUnit b rest).1 with
      | some c => Text.shown '"' c
      | none => String.join (((b :: rest).take (rest.length + 1 - left.length)).map shownByte)
    unit ++ shownBytes left
termination_by bytes => bytes.length
decreasing_by have := Utf8.length_readUnit b rest; simp only [List.length_cons]; omega

/-- A raw text between double quotes. -/
def quoted (r : RawText) : String := "\"" ++ shownBytes r.bytes ++ "\""

end RawText

end VendorBuild
