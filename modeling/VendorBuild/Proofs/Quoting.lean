import VendorBuild.Proofs.Literals
import VendorBuild.Rule.Quoted

/-!
# Quoted values are read back

The quoting of attribute values and the reading of string literals are written apart: the one
chooses among a short name, a plain character and three widths of hexadecimal digits, the other
takes every escape of the language and joins the bytes it stands for. Between the quotes each
character is read back on its own, as the bytes of that character.

Results:
* `isNumeral_hexDigits`: a hexadecimal numeral shows its number.
* `isItem_escape`: what is written for a character is one item, and stands for its bytes.
* `Quoted.quote_injective`: different texts have different quoted values.
* `value_quote`: the value of a quoted text is that text.
-/

namespace VendorBuild

open Text

/-! ## Numerals -/

theorem showsDigit_digitChar : ∀ d < 16, Literal.ShowsDigit (Nat.digitChar d) d := by
  decide

namespace Literal

/-- A hexadecimal numeral shows its number, if that fits. -/
theorem isNumeral_hexDigits {width n : Nat} (h : n < 16 ^ width) :
    IsNumeral 16 (hexDigits width n) n := by
  induction width generalizing n with
  | zero =>
    rw [Nat.pow_zero, Nat.lt_one_iff] at h
    subst h
    exact .nil
  | succ width ih =>
    have hlast : n % 16 < 16 := Nat.mod_lt n (by omega)
    have hfront : n / 16 < 16 ^ width := by
      rw [Nat.pow_succ] at h
      exact Nat.div_lt_of_lt_mul (by rwa [Nat.mul_comm])
    have hnum := (ih hfront).append (.singleton hlast (showsDigit_digitChar _ hlast))
    rwa [List.length_singleton, Nat.pow_one, Nat.div_add_mod'] at hnum

/-! ## One character -/

/-- The character behind a short name is the one byte that the name stands for. -/
theorem mem_shortEscapes_of_shortName? {c name : Char} (h : Quoted.shortName? c = some name) :
    ∃ byte, (name, byte) ∈ shortEscapes ∧ String.utf8EncodeChar c = [byte] := by
  unfold Quoted.shortName? at h
  split_ifs at h
  all_goals
    cases h
    subst_vars
    exact ⟨_, by decide, rfl⟩

theorem isPlain_of_shortName?_eq_none {c : Char} (h : Quoted.shortName? c = none) : IsPlain c := by
  refine ⟨?_, ?_, ?_⟩ <;> rintro rfl <;> cases h

theorem utf8EncodeChar_of_lt {c : Char} (h : c.toNat < 0x80) :
    String.utf8EncodeChar c = [UInt8.ofNat c.toNat] := by
  have hle : c.val.toNat ≤ 0x7F := Nat.le_of_lt_succ h
  unfold String.utf8EncodeChar
  simp only [if_pos hle]
  rfl

theorem toNat_lt (c : Char) : c.toNat < 0x110000 := by
  rcases c.valid with h | h
  · exact Nat.lt_trans h (by decide)
  · exact h.2

/-- What is written for a character is one item, which stands for the bytes of the character. -/
theorem isItem_escape (c : Char) : IsItem (Quoted.escape c) (String.utf8EncodeChar c) := by
  unfold Quoted.escape
  split
  · rename_i name hname
    obtain ⟨byte, hbyte, hc⟩ := mem_shortEscapes_of_shortName? hname
    rw [hc]
    exact .escape (.short hbyte)
  · rename_i hname
    split_ifs with hprint htwo hfour
    · exact .plain (isPlain_of_shortName?_eq_none hname)
    · rw [utf8EncodeChar_of_lt htwo]
      have hbyte : (UInt8.ofNat c.toNat).toNat = c.toNat :=
        UInt8.toNat_ofNat_of_lt' (Nat.lt_trans htwo (by decide))
      have hwidth : c.toNat < 16 ^ 2 := Nat.lt_trans htwo (by decide)
      exact .escape (.byte (length_hexDigits ..) (by rw [hbyte]; exact isNumeral_hexDigits hwidth))
    · exact .escape (.codePoint (length_hexDigits ..) (isNumeral_hexDigits hfour))
    · have height : c.toNat < 16 ^ 8 := Nat.lt_trans (toNat_lt c) (by decide)
      exact .escape (.longCodePoint (length_hexDigits ..) (isNumeral_hexDigits height))

/-! ## A text -/

/-- What is written between the quotes spells the bytes of the text. -/
theorem spells_flatMap_escape (cs : List Char) :
    Spells (cs.flatMap Quoted.escape) (cs.flatMap String.utf8EncodeChar) := by
  induction cs with
  | nil => exact .nil
  | cons c cs ih => exact .cons (isItem_escape c) ih

/-- What is written between the quotes is read as the bytes of the text. -/
theorem itemBytes_flatMap_escape (cs : List Char) :
    itemBytes (cs.flatMap Quoted.escape) = .ok (cs.flatMap String.utf8EncodeChar) :=
  (itemBytes_eq_ok_iff (spells_flatMap_escape cs).newline_notMem).2 (spells_flatMap_escape cs)

end Literal

namespace Quoted

theorem quote_eq_append (s : String) :
    quote s = "\"" ++ String.ofList (s.toList.flatMap escape) ++ "\"" := by
  rw [← String.toList_inj]
  simp [quote]

theorem newline_notMem_flatMap_escape (cs : List Char) : '\n' ∉ cs.flatMap escape :=
  (Literal.spells_flatMap_escape cs).newline_notMem

theorem quote_injective {s t : String} (h : quote s = quote t) : s = t := by
  rw [quote, quote, String.ofList_inj, List.cons.injEq] at h
  have hbody : s.toList.flatMap escape = t.toList.flatMap escape := List.append_cancel_right h.2
  have hbytes : Utf8.encode s = Utf8.encode t := by
    have := congrArg Literal.itemBytes hbody
    rwa [Literal.itemBytes_flatMap_escape, Literal.itemBytes_flatMap_escape,
      Except.ok.injEq] at this
  have hdecode := congrArg Utf8.decode? hbytes
  rwa [Utf8.decode?_encode, Utf8.decode?_encode, Option.some.injEq] at hdecode

end Quoted

namespace Literal

theorem between?_of_ne {quote c : Char} (h : c ≠ quote) (rest : List Char) :
    between? quote (c :: rest) = none := by
  rw [between?, if_neg fun hc => h hc.1]

theorem between?_marks (quote : Char) (body : List Char) :
    between? quote (quote :: (body ++ [quote])) = some body := by
  rw [between?, if_pos ⟨rfl, by simp⟩, List.dropLast_concat]

/-- A body on one line whose items are the bytes of a text has that text as its value. -/
theorem quotedValue_eq_ok {body : List Char} {s : String} (hline : '\n' ∉ body)
    (hbytes : itemBytes body = .ok (Utf8.encode s)) : quotedValue body = .ok s := by
  rw [quotedValue_eq, if_neg hline]
  exact itemsValue_eq_ok_iff.2 hbytes

/-- The value of a quoted text is that text. -/
theorem value_quote (s : String) : value (Quoted.quote s) = .ok s := by
  have hlen : ¬ (Quoted.quote s).utf8ByteSize < 2 := by
    rw [Quoted.quote_eq_append, String.utf8ByteSize_append, String.utf8ByteSize_append,
      show "\"".utf8ByteSize = 1 from rfl]
    omega
  have hlist : (Quoted.quote s).toList = '"' :: (s.toList.flatMap Quoted.escape ++ ['"']) :=
    String.toList_ofList
  rw [value, if_neg hlen, hlist, between?_of_ne (by decide), between?_marks]
  exact quotedValue_eq_ok (Quoted.newline_notMem_flatMap_escape s.toList)
    (itemBytes_flatMap_escape s.toList)

end Literal

end VendorBuild
