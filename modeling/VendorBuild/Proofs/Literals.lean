import VendorBuild.Proofs.Numerals
import VendorBuild.Proofs.Utf8

/-!
# Which texts are string literals

A literal between double quotes is a sequence of items, each a plain character or an escape. The
items are read one by one, though a body without a backslash is taken as it stands; either way the
text must spell the bytes of the value. What an escape holds is given here by tables and numerals,
without the reading of it.

Results:
* `readEscape_eq_ok_iff`: which escapes are read, and as which bytes.
* `itemBytes_eq_ok_iff`: a body is read item by item as the bytes it spells.
* `quotedValue_eq`: taking a body as it stands gives what reading its items gives.
* `value_eq_ok_iff`: which literals have a value, and which value that is.
-/

namespace VendorBuild.Literal

/-! ## What a body spells -/

/-- The names of single bytes behind a backslash. -/
def shortEscapes : List (Char × UInt8) :=
  [('a', 0x07), ('b', 0x08), ('f', 0x0C), ('n', 0x0A), ('r', 0x0D), ('t', 0x09), ('v', 0x0B),
    ('\\', 0x5C), ('"', 0x22)]

/-- What may stand behind a backslash, and the bytes it stands for: a name, the number of a byte in
two hexadecimal or three octal digits, or the number of a character in four or eight hexadecimal
digits. -/
inductive IsEscape : List Char → List UInt8 → Prop
  | short {name : Char} {byte : UInt8} (h : (name, byte) ∈ shortEscapes) : IsEscape [name] [byte]
  | byte {digits : List Char} {byte : UInt8} (hlen : digits.length = 2)
      (hnum : IsNumeral 16 digits byte.toNat) : IsEscape ('x' :: digits) [byte]
  | octal {digits : List Char} {byte : UInt8} (hlen : digits.length = 3)
      (hnum : IsNumeral 8 digits byte.toNat) : IsEscape digits [byte]
  | codePoint {digits : List Char} {c : Char} (hlen : digits.length = 4)
      (hnum : IsNumeral 16 digits c.toNat) : IsEscape ('u' :: digits) (String.utf8EncodeChar c)
  | longCodePoint {digits : List Char} {c : Char} (hlen : digits.length = 8)
      (hnum : IsNumeral 16 digits c.toNat) : IsEscape ('U' :: digits) (String.utf8EncodeChar c)

/-- Whether a character stands for itself between double quotes. -/
def IsPlain (c : Char) : Prop := c ≠ '"' ∧ c ≠ '\\' ∧ c ≠ '\n'

instance (c : Char) : Decidable (IsPlain c) := inferInstanceAs (Decidable (_ ∧ _))

/-- An item between double quotes, and the bytes it stands for. -/
inductive IsItem : List Char → List UInt8 → Prop
  | plain {c : Char} (h : IsPlain c) : IsItem [c] (String.utf8EncodeChar c)
  | escape {cs : List Char} {bytes : List UInt8} (h : IsEscape cs bytes) : IsItem ('\\' :: cs) bytes

/-- Whether the items of a body stand for bytes, from left to right. -/
inductive Spells : List Char → List UInt8 → Prop
  | nil : Spells [] []
  | cons {item rest : List Char} {bytes more : List UInt8} (hitem : IsItem item bytes)
      (hrest : Spells rest more) : Spells (item ++ rest) (bytes ++ more)

/-! ## Escapes -/

theorem IsNumeral.isPlain {base n : Nat} {digits : List Char} (h : IsNumeral base digits n) :
    ∀ c ∈ digits, IsPlain c := by
  have hall : ("0123456789abcdef".toList.take 16 ++ "0123456789ABCDEF".toList.take 16).all
      (fun c => decide (IsPlain c)) = true := by
    decide
  intro c hc
  obtain ⟨d, -, hdigit⟩ := h.exists_showsDigit hc
  exact of_decide_eq_true (List.all_eq_true.1 hall c (hdigit.mem_take hdigit.lt))

/-- Octal digits are neither short names nor letters that announce digits. -/
theorem IsNumeral.ne_of_octal {n : Nat} {digits : List Char} (h : IsNumeral 8 digits n) :
    ∀ c ∈ digits, simpleEscape? c = none ∧ c ≠ 'x' ∧ ¬(c = 'u' ∨ c = 'U') := by
  have hall : ("0123456789abcdef".toList.take 8 ++ "0123456789ABCDEF".toList.take 8).all
      (fun c => decide (simpleEscape? c = none ∧ c ≠ 'x' ∧ ¬(c = 'u' ∨ c = 'U'))) = true := by
    decide
  intro c hc
  obtain ⟨d, hlt, hdigit⟩ := h.exists_showsDigit hc
  exact of_decide_eq_true (List.all_eq_true.1 hall c (hdigit.mem_take hlt))

theorem simpleEscape?_eq_some_iff {c : Char} {byte : UInt8} :
    simpleEscape? c = some byte ↔ (c, byte) ∈ shortEscapes := by
  constructor
  · intro h
    unfold simpleEscape? at h
    split at h <;> cases h <;> decide
  · intro h
    simp only [shortEscapes, List.mem_cons, Prod.mk.injEq, List.not_mem_nil, or_false] at h
    rcases h with ⟨rfl, rfl⟩ | ⟨rfl, rfl⟩ | ⟨rfl, rfl⟩ | ⟨rfl, rfl⟩ | ⟨rfl, rfl⟩ | ⟨rfl, rfl⟩ |
      ⟨rfl, rfl⟩ | ⟨rfl, rfl⟩ | ⟨rfl, rfl⟩ <;> rfl

/-- The bytes of a code point are those of the character it is the number of. -/
theorem codePointBytes_eq_ok_iff {code : UInt32} {bytes : List UInt8} :
    codePointBytes code = .ok bytes ↔
      ∃ c : Char, c.toNat = code.toNat ∧ bytes = String.utf8EncodeChar c := by
  unfold codePointBytes
  constructor
  · intro h
    split at h
    · rename_i hvalid
      cases h
      exact ⟨_, Utf8.toNat_ofNat hvalid, rfl⟩
    · cases h
  · rintro ⟨c, hc, rfl⟩
    rw [← hc, if_pos (show c.toNat.isValidChar from c.valid), Char.ofNat_toNat]

section

variable {c : Char} {rest left : List Char} {bytes : List UInt8}

theorem readEscape_byte_eq_ok_iff :
    readEscape 'x' rest = .ok (bytes, left) ↔
      ∃ digits, ∃ byte : UInt8, digits.length = 2 ∧ IsNumeral 16 digits byte.toNat ∧
        bytes = [byte] ∧ rest = digits ++ left := by
  rw [readEscape, show simpleEscape? 'x' = none from rfl]
  simp only [if_true]
  constructor
  · intro h
    split at h
    · rename_i value left hdigits
      cases h
      obtain ⟨digits, rfl, hlen, hnum⟩ := (readDigits_zero_eq_some_iff (by decide)).1 hdigits
      have hlt : value.toNat < 16 ^ 2 := hlen ▸ hnum.lt
      have hbyte : value.toUInt8.toNat = value.toNat := by
        rw [UInt32.toNat_toUInt8, Nat.mod_eq_of_lt (by omega)]
      exact ⟨digits, _, hlen, hbyte ▸ hnum, rfl, rfl⟩
    · cases h
  · rintro ⟨digits, byte, hlen, hnum, rfl, rfl⟩
    have hdigits : readDigits 16 0 2 (digits ++ left) = some (byte.toUInt32, left) :=
      (readDigits_zero_eq_some_iff (by decide)).2
        ⟨digits, rfl, hlen, by rwa [UInt8.toNat_toUInt32]⟩
    rw [hdigits]
    simp

/-- Four or eight hexadecimal digits are read as the number of a character. -/
theorem readEscape_codePoint_eq_ok_iff (hc : c = 'u' ∨ c = 'U') :
    readEscape c rest = .ok (bytes, left) ↔
      ∃ digits, ∃ d : Char, digits.length = (if c = 'u' then 4 else 8) ∧
        IsNumeral 16 digits d.toNat ∧ bytes = String.utf8EncodeChar d ∧ rest = digits ++ left := by
  have hsimple : simpleEscape? c = none := by rcases hc with rfl | rfl <;> rfl
  have hx : c ≠ 'x' := by rcases hc with rfl | rfl <;> decide
  have hfits : (16 : UInt32).toNat ^ (if c = 'u' then 4 else 8) ≤ 2 ^ 32 := by
    split <;> decide
  rw [readEscape, hsimple]
  simp only [if_neg hx, if_pos hc]
  constructor
  · intro h
    split at h
    · rename_i code left hdigits
      obtain ⟨digits, rfl, hlen, hnum⟩ := (readDigits_zero_eq_some_iff hfits).1 hdigits
      cases hbytes : codePointBytes code with
      | error fault =>
        rw [hbytes] at h
        cases h
      | ok bytes =>
        rw [hbytes] at h
        cases h
        obtain ⟨d, hd, rfl⟩ := codePointBytes_eq_ok_iff.1 hbytes
        exact ⟨digits, d, hlen, hd ▸ hnum, rfl, rfl⟩
    · cases h
  · rintro ⟨digits, d, hlen, hnum, rfl, rfl⟩
    have hdigits : readDigits 16 0 (if c = 'u' then 4 else 8) (digits ++ left) =
        some (d.val, left) :=
      (readDigits_zero_eq_some_iff hfits).2 ⟨digits, rfl, hlen, hnum⟩
    simp only [hdigits, codePointBytes_eq_ok_iff.2 ⟨d, rfl, rfl⟩]
    rfl

theorem toNat_octal {first more : UInt32} (hfirst : first.toNat < 8) (hmore : more.toNat < 8 ^ 2) :
    (first * 64 + more).toNat = first.toNat * 8 ^ 2 + more.toNat := by
  have h64 : (64 : UInt32).toNat = 64 := rfl
  rw [UInt32.toNat_add, UInt32.toNat_mul, h64]
  omega

theorem toNat_toUInt8_octal {first more : UInt32} (hfirst : first.toNat < 8)
    (hmore : more.toNat < 8 ^ 2) (hrange : first * 64 + more ≤ 0xFF) :
    (first * 64 + more).toUInt8.toNat = first.toNat * 8 ^ 2 + more.toNat := by
  rw [UInt32.toNat_toUInt8, Nat.mod_eq_of_lt, toNat_octal hfirst hmore]
  exact Nat.lt_succ_of_le (UInt32.le_iff_toNat_le.1 hrange)

/-- The word that three octal digits make is the byte with the number that they show. -/
theorem octal_eq_toUInt32 {first more : UInt32} {byte : UInt8} (hfirst : first.toNat < 8)
    (hmore : more.toNat < 8 ^ 2) (hbyte : byte.toNat = first.toNat * 8 ^ 2 + more.toNat) :
    first * 64 + more = byte.toUInt32 := by
  rw [← UInt32.toNat_inj, toNat_octal hfirst hmore, UInt8.toNat_toUInt32, hbyte]

theorem toUInt32_le_max (byte : UInt8) : byte.toUInt32 ≤ 0xFF := by
  rw [UInt32.le_iff_toNat_le, UInt8.toNat_toUInt32]
  exact Nat.le_of_lt_succ byte.toNat_lt

theorem readEscape_octal_eq_ok_iff (hsimple : simpleEscape? c = none) (hx : c ≠ 'x')
    (hu : ¬(c = 'u' ∨ c = 'U')) :
    readEscape c rest = .ok (bytes, left) ↔
      ∃ digits, ∃ byte : UInt8, digits.length = 3 ∧ IsNumeral 8 digits byte.toNat ∧
        bytes = [byte] ∧ c :: rest = digits ++ left := by
  rw [readEscape, hsimple]
  simp only [if_neg hx, if_neg hu]
  constructor
  · intro h
    split at h
    · cases h
    · rename_i first hfirst
      obtain ⟨hlt, hdigit⟩ := digit?_eq_some_iff.1 hfirst
      split at h
      · rename_i more left hdigits
        obtain ⟨digits, rfl, hlen, hnum⟩ := (readDigits_zero_eq_some_iff (by decide)).1 hdigits
        split at h
        · rename_i hrange
          cases h
          refine ⟨c :: digits, _, congrArg (· + 1) hlen, ?_, rfl, rfl⟩
          rw [toNat_toUInt8_octal hlt (hlen ▸ hnum.lt) hrange, ← hlen]
          exact .cons hlt hdigit hnum
        · cases h
      · cases h
  · rintro ⟨digits, byte, hlen, hnum, rfl, happend⟩
    generalize hbyte : byte.toNat = n at hnum
    cases hnum with
    | nil => cases hlen
    | @cons e d n digits hlt hdigit hnum =>
      rw [List.cons_append, List.cons.injEq] at happend
      obtain ⟨rfl, rfl⟩ := happend
      rw [Nat.succ.inj hlen] at hbyte
      have hn : n < 8 ^ 2 := Nat.succ.inj hlen ▸ hnum.lt
      have hd : (UInt32.ofNat d).toNat = d :=
        UInt32.toNat_ofNat_of_lt' (Nat.lt_trans hlt (by decide))
      have hmore : (UInt32.ofNat n).toNat = n :=
        UInt32.toNat_ofNat_of_lt' (Nat.lt_trans hn (by decide))
      have hfirst : digit? 8 c = some (UInt32.ofNat d) :=
        digit?_eq_some_iff.2 ⟨by rwa [hd], by rwa [hd]⟩
      have hdigits : readDigits 8 0 2 (digits ++ left) = some (UInt32.ofNat n, left) :=
        (readDigits_zero_eq_some_iff (by decide)).2
          ⟨digits, rfl, Nat.succ.inj hlen, by rwa [hmore]⟩
      have hnumber : UInt32.ofNat d * 64 + UInt32.ofNat n = byte.toUInt32 :=
        octal_eq_toUInt32 (by rwa [hd]) (by rwa [hmore]) (by rw [hd, hmore, hbyte])
      simp only [hfirst, hdigits, hnumber, if_pos (toUInt32_le_max byte)]
      simp

/-- What is read behind a backslash is one of the escapes, with the bytes it stands for. -/
theorem readEscape_eq_ok_iff :
    readEscape c rest = .ok (bytes, left) ↔ ∃ cs, IsEscape cs bytes ∧ c :: rest = cs ++ left := by
  constructor
  · intro h
    cases hsimple : simpleEscape? c with
    | some byte =>
      rw [readEscape, hsimple] at h
      cases h
      exact ⟨[c], .short (simpleEscape?_eq_some_iff.1 hsimple), rfl⟩
    | none =>
      by_cases hx : c = 'x'
      · subst hx
        obtain ⟨digits, byte, hlen, hnum, rfl, rfl⟩ := readEscape_byte_eq_ok_iff.1 h
        exact ⟨_, .byte hlen hnum, rfl⟩
      · by_cases hu : c = 'u' ∨ c = 'U'
        · obtain ⟨digits, d, hlen, hnum, rfl, rfl⟩ := (readEscape_codePoint_eq_ok_iff hu).1 h
          rcases hu with rfl | rfl
          · exact ⟨_, .codePoint hlen hnum, rfl⟩
          · exact ⟨_, .longCodePoint hlen hnum, rfl⟩
        · obtain ⟨digits, byte, hlen, hnum, rfl, happend⟩ :=
            (readEscape_octal_eq_ok_iff hsimple hx hu).1 h
          exact ⟨_, .octal hlen hnum, happend⟩
  · rintro ⟨cs, hescape, happend⟩
    cases hescape with
    | short hname =>
      obtain ⟨rfl, rfl⟩ := List.cons.inj happend
      rw [readEscape, simpleEscape?_eq_some_iff.2 hname]
    | byte hlen hnum =>
      obtain ⟨rfl, rfl⟩ := List.cons.inj happend
      exact readEscape_byte_eq_ok_iff.2 ⟨_, _, hlen, hnum, rfl, rfl⟩
    | codePoint hlen hnum =>
      obtain ⟨rfl, rfl⟩ := List.cons.inj happend
      exact (readEscape_codePoint_eq_ok_iff (.inl rfl)).2 ⟨_, _, hlen, hnum, rfl, rfl⟩
    | longCodePoint hlen hnum =>
      obtain ⟨rfl, rfl⟩ := List.cons.inj happend
      exact (readEscape_codePoint_eq_ok_iff (.inr rfl)).2 ⟨_, _, hlen, hnum, rfl, rfl⟩
    | @octal _ byte hlen hnum =>
      obtain ⟨d, digits, rfl⟩ := List.exists_cons_of_length_eq_add_one hlen
      obtain ⟨rfl, -⟩ := List.cons.inj happend
      obtain ⟨hsimple, hx, hu⟩ := hnum.ne_of_octal c List.mem_cons_self
      exact (readEscape_octal_eq_ok_iff hsimple hx hu).2 ⟨_, _, hlen, hnum, rfl, happend⟩

end

/-! ## Items -/

/-- An escape is a character on the line of the backslash and digits behind it. -/
theorem IsEscape.eq_cons {cs : List Char} {bytes : List UInt8} (h : IsEscape cs bytes) :
    ∃ c digits, cs = c :: digits ∧ c ≠ '\n' ∧ ∀ d ∈ digits, IsPlain d := by
  cases h with
  | @short name _ hname =>
    refine ⟨name, [], rfl, ?_, fun d hd => by cases hd⟩
    rintro rfl
    simp [shortEscapes] at hname
  | octal hlen hnum =>
    obtain ⟨c, digits, rfl⟩ := List.exists_cons_of_length_eq_add_one hlen
    have hplain := List.forall_mem_cons.1 hnum.isPlain
    exact ⟨c, digits, rfl, hplain.1.2.2, hplain.2⟩
  | byte _ hnum | codePoint _ hnum | longCodePoint _ hnum =>
    exact ⟨_, _, rfl, by decide, hnum.isPlain⟩

theorem IsItem.newline_notMem {item : List Char} {bytes : List UInt8} (h : IsItem item bytes) :
    '\n' ∉ item := by
  cases h with
  | plain h => simpa using h.2.2.symm
  | escape h =>
    obtain ⟨c, digits, rfl, hc, hdigits⟩ := h.eq_cons
    rw [List.mem_cons, List.mem_cons]
    rintro (h' | h' | h')
    · exact absurd h' (by decide)
    · exact hc h'.symm
    · exact (hdigits _ h').2.2 rfl

/-- On a line, what is read from the front of a body is one of the items. -/
theorem readItem_eq_ok_iff {c : Char} {rest left : List Char} {bytes : List UInt8} (hc : c ≠ '\n') :
    readItem c rest = .ok (bytes, left) ↔
      ∃ item, IsItem item bytes ∧ c :: rest = item ++ left := by
  unfold readItem
  constructor
  · intro h
    split at h
    · cases h
    · rename_i hquote
      split at h
      · rename_i hbackslash
        subst hbackslash
        split at h
        · cases h
        · obtain ⟨cs, hcs, happend⟩ := readEscape_eq_ok_iff.1 h
          exact ⟨_, .escape hcs, congrArg _ happend⟩
      · rename_i hbackslash
        cases h
        exact ⟨[c], .plain ⟨hquote, hbackslash, hc⟩, rfl⟩
  · rintro ⟨item, hitem, happend⟩
    cases hitem with
    | plain hplain =>
      obtain ⟨rfl, rfl⟩ := List.cons.inj happend
      rw [if_neg hplain.1, if_neg hplain.2.1]
    | @escape cs bytes hcs =>
      obtain ⟨rfl, hrest⟩ := List.cons.inj happend
      rw [if_neg (by decide), if_pos rfl]
      cases rest with
      | nil =>
        obtain ⟨d, digits, rfl, -⟩ := hcs.eq_cons
        cases hrest
      | cons d rest => exact readEscape_eq_ok_iff.2 ⟨cs, hcs, hrest⟩

/-! ## Bodies -/

theorem Spells.newline_notMem {body : List Char} {bytes : List UInt8} (h : Spells body bytes) :
    '\n' ∉ body := by
  induction h with
  | nil => exact List.not_mem_nil
  | cons hitem _ ih =>
    rw [List.mem_append]
    exact not_or_intro hitem.newline_notMem ih

theorem itemBytes_append {item : List Char} {bytes : List UInt8} (h : IsItem item bytes)
    (rest : List Char) : itemBytes (item ++ rest) = (itemBytes rest).map (bytes ++ ·) := by
  have hline := h.newline_notMem
  cases item with
  | nil => cases h
  | cons c item =>
    have hread : readItem c (item ++ rest) = .ok (bytes, rest) :=
      (readItem_eq_ok_iff (List.ne_of_not_mem_cons hline).symm).2 ⟨_, h, rfl⟩
    rw [List.cons_append, itemBytes]
    split
    · rename_i hfault
      rw [hread] at hfault
      cases hfault
    · rename_i hok
      rw [hread] at hok
      cases hok
      rfl

/-- A body on one line is read item by item as the bytes it spells. -/
theorem itemBytes_eq_ok_iff {body : List Char} {bytes : List UInt8} (hline : '\n' ∉ body) :
    itemBytes body = .ok bytes ↔ Spells body bytes := by
  constructor
  · intro h
    fun_induction itemBytes body generalizing bytes with
    | case1 =>
      cases h
      exact .nil
    | case2 c rest fault _ => cases h
    | case3 c rest front left hread ih =>
      have hc : c ≠ '\n' := (List.ne_of_not_mem_cons hline).symm
      obtain ⟨item, hitem, happend⟩ := (readItem_eq_ok_iff hc).1 hread
      rw [happend, List.mem_append, not_or] at hline
      cases hleft : itemBytes left with
      | error fault =>
        rw [hleft] at h
        cases h
      | ok more =>
        rw [hleft] at h
        cases h
        rw [happend]
        exact .cons hitem (ih hline.2 hleft)
  · intro h
    induction h with
    | nil => rw [itemBytes]
    | cons hitem hrest ih =>
      rw [itemBytes_append hitem, ih hrest.newline_notMem]
      rfl

theorem itemsValue_eq_ok_iff {body : List Char} {v : String} :
    itemsValue body = .ok v ↔ itemBytes body = .ok (Utf8.encode v) := by
  unfold itemsValue
  cases itemBytes body with
  | error fault => simp [bind, Except.bind]
  | ok bytes =>
    rw [Except.ok.injEq, ← Utf8.decode?_eq_some_iff]
    simp only [bind, Except.bind]
    cases Utf8.decode? bytes with
    | none => simp
    | some value => simp

theorem itemBytes_quote (rest : List Char) : itemBytes ('"' :: rest) = .error .quoteInside := by
  rw [itemBytes]
  split
  · rename_i hfault
    cases hfault
    rfl
  · rename_i hok
    cases hok

/-- The items of a line without backslashes are its characters, up to the first quote. -/
theorem itemBytes_of_plain {body : List Char} (hline : '\n' ∉ body) (hbackslash : '\\' ∉ body) :
    itemBytes body =
      if '"' ∈ body then .error .quoteInside else .ok (body.flatMap String.utf8EncodeChar) := by
  induction body with
  | nil =>
    rw [itemBytes]
    rfl
  | cons c rest ih =>
    rw [List.mem_cons, not_or] at hline hbackslash
    by_cases hquote : c = '"'
    · rw [hquote, itemBytes_quote, if_pos (List.mem_cons_self)]
    · have hitem : IsItem [c] (String.utf8EncodeChar c) :=
        .plain ⟨hquote, Ne.symm hbackslash.1, Ne.symm hline.1⟩
      have hmem : '"' ∈ c :: rest ↔ '"' ∈ rest := by
        rw [List.mem_cons, or_iff_right (Ne.symm hquote)]
      have happend := itemBytes_append hitem rest
      rw [List.singleton_append] at happend
      rw [happend, ih hline.2 hbackslash.2]
      simp only [hmem]
      split <;> rfl

/-- Taking a body as it stands gives what reading its items gives. -/
theorem quotedValue_eq (body : List Char) :
    quotedValue body = if '\n' ∈ body then .error .newlineInside else itemsValue body := by
  unfold quotedValue
  refine if_ctx_congr Iff.rfl (fun _ => rfl) fun hline => ?_
  split
  · rfl
  · rename_i hbackslash
    rw [itemsValue, itemBytes_of_plain hline hbackslash]
    split
    · rfl
    · have hdecode := Utf8.decode?_encode (String.ofList body)
      rw [Utf8.encode, String.toList_ofList] at hdecode
      simp only [bind, Except.bind, hdecode]

/-- A body between double quotes has a value exactly if it spells the bytes of that value. -/
theorem quotedValue_eq_ok_iff {body : List Char} {v : String} :
    quotedValue body = .ok v ↔ Spells body (Utf8.encode v) := by
  rw [quotedValue_eq]
  split
  · rename_i hline
    constructor
    · intro h
      cases h
    · intro h
      exact absurd hline h.newline_notMem
  · rename_i hline
    rw [itemsValue_eq_ok_iff, itemBytes_eq_ok_iff hline]

/-! ## Literals -/

theorem rawValue_eq_ok_iff {body : List Char} {v : String} :
    rawValue body = .ok v ↔ '`' ∉ body ∧ v.toList = body.filter (· ≠ '\r') := by
  unfold rawValue
  split
  · simp_all
  · rename_i hbody
    simp [hbody, ← String.toList_inj, eq_comm]

/-- A text stands between two marks exactly if it starts with the one and then ends in the other. -/
theorem between?_eq_some_iff {quote : Char} {cs body : List Char} :
    between? quote cs = some body ↔ cs = quote :: (body ++ [quote]) := by
  cases cs with
  | nil => simp [between?]
  | cons c rest =>
    rw [between?, List.cons.injEq]
    constructor
    · intro h
      split at h
      · rename_i hmarks
        obtain ⟨inner, rfl⟩ := List.getLast?_eq_some_iff.1 hmarks.2
        rw [List.dropLast_concat, Option.some.injEq] at h
        exact ⟨hmarks.1, by rw [h]⟩
      · cases h
    · rintro ⟨rfl, rfl⟩
      rw [if_pos ⟨rfl, List.getLast?_concat⟩, List.dropLast_concat]

theorem two_le_utf8ByteSize {quote : Char} {literal : String} {body : List Char}
    (h : literal.toList = quote :: (body ++ [quote])) : ¬literal.utf8ByteSize < 2 := by
  have hparts :
      literal = String.singleton quote ++ String.ofList body ++ String.singleton quote := by
    rw [← String.toList_inj, h]
    simp
  have hquote := quote.utf8Size_pos
  rw [hparts, String.utf8ByteSize_append, String.utf8ByteSize_append, String.utf8ByteSize_singleton]
  omega

theorem value_of_raw {literal : String} {body : List Char}
    (h : literal.toList = '`' :: (body ++ ['`'])) : value literal = rawValue body := by
  rw [value, if_neg (two_le_utf8ByteSize h), between?_eq_some_iff.2 h]

theorem value_of_quoted {literal : String} {body : List Char}
    (h : literal.toList = '"' :: (body ++ ['"'])) : value literal = quotedValue body := by
  have hraw : between? '`' literal.toList = none := by
    rw [h, between?, if_neg fun hc => absurd hc.1 (by decide)]
  rw [value, if_neg (two_le_utf8ByteSize h), hraw, between?_eq_some_iff.2 h]

/-- Which literals have a value, and which value: their text without carriage returns, or the text
whose bytes their items spell. On one line it makes no difference whether items are read. -/
theorem value_eq_ok_iff (literal v : String) :
    (value literal = .ok v ↔
      (∃ body, literal.toList = '`' :: (body ++ ['`']) ∧ '`' ∉ body ∧
        v.toList = body.filter (· ≠ '\r')) ∨
      ∃ body, literal.toList = '"' :: (body ++ ['"']) ∧ Spells body (Utf8.encode v)) ∧
    ∀ body, quotedValue body =
      if '\n' ∈ body then .error .newlineInside else itemsValue body := by
  refine ⟨⟨fun h => ?_, ?_⟩, quotedValue_eq⟩
  · unfold value at h
    split at h
    · cases h
    · split at h
      · rename_i body hbody
        exact .inl ⟨body, between?_eq_some_iff.1 hbody, rawValue_eq_ok_iff.1 h⟩
      · split at h
        · rename_i body hbody
          exact .inr ⟨body, between?_eq_some_iff.1 hbody, quotedValue_eq_ok_iff.1 h⟩
        · cases h
  · rintro (⟨body, hbody, hvalue⟩ | ⟨body, hbody, hspells⟩)
    · rw [value_of_raw hbody]
      exact rawValue_eq_ok_iff.2 hvalue
    · rw [value_of_quoted hbody]
      exact quotedValue_eq_ok_iff.2 hspells

/-- Two escapes of bytes spell one character between them. -/
example : value "\"\\xc3\\251\"" = .ok "é" := by
  decide +kernel

end VendorBuild.Literal
