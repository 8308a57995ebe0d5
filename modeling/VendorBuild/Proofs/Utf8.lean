import VendorBuild.Text.Utf8
import Mathlib.Tactic.SplitIfs

/-!
# UTF-8 there and back

The bytes of a character announce themselves: the first byte says how many follow and in which
ranges, and the bytes of the next character never continue it. So the bytes of a text split into its
characters again, however texts are put one behind the other. The ranges leave each character one
spelling, so no other bytes split into these characters; and texts are ordered as their bytes are.

Results:
* `readUnit_encodeChar`: the bytes of a character are read as that character, whatever follows.
* `decode?_encode`: strict decoding gives a text back from its bytes.
* `decode?_eq_some_iff`: and it gives the text from no other bytes.
* `encode_lt_encode`: the order of texts by code point is the order of their bytes.
-/

namespace VendorBuild.Utf8

/-! ## Reading one character -/

theorem ofNat_le_iff {n : Nat} (h : n < 256) {b : UInt8} : UInt8.ofNat n ≤ b ↔ n ≤ b.toNat := by
  rw [UInt8.le_iff_toNat_le, UInt8.toNat_ofNat', Nat.mod_eq_of_lt h]

theorem le_ofNat_iff {n : Nat} (h : n < 256) {b : UInt8} : b ≤ UInt8.ofNat n ↔ b.toNat ≤ n := by
  rw [UInt8.le_iff_toNat_le, UInt8.toNat_ofNat', Nat.mod_eq_of_lt h]

theorem ofNat_lt_iff {n : Nat} (h : n < 256) {b : UInt8} : UInt8.ofNat n < b ↔ n < b.toNat := by
  rw [UInt8.lt_iff_toNat_lt, UInt8.toNat_ofNat', Nat.mod_eq_of_lt h]

theorem ofNat_eq_iff {n : Nat} (h : n < 256) {b : UInt8} : UInt8.ofNat n = b ↔ n = b.toNat := by
  rw [← UInt8.toNat_inj, UInt8.toNat_ofNat', Nat.mod_eq_of_lt h]

theorem lead?_ofNat {n : Nat} (h : n < 256) :
    lead? (UInt8.ofNat n) =
      if n < 0x80 then some ⟨n, []⟩
      else if n < 0xC2 then none
      else if n < 0xE0 then some ⟨n - 0xC0, [(0x80, 0xBF)]⟩
      else if n = 0xE0 then some ⟨0, [(0xA0, 0xBF), (0x80, 0xBF)]⟩
      else if n = 0xED then some ⟨0xD, [(0x80, 0x9F), (0x80, 0xBF)]⟩
      else if n < 0xF0 then some ⟨n - 0xE0, [(0x80, 0xBF), (0x80, 0xBF)]⟩
      else if n = 0xF0 then some ⟨0, [(0x90, 0xBF), (0x80, 0xBF), (0x80, 0xBF)]⟩
      else if n < 0xF4 then some ⟨n - 0xF0, [(0x80, 0xBF), (0x80, 0xBF), (0x80, 0xBF)]⟩
      else if n = 0xF4 then some ⟨4, [(0x80, 0x8F), (0x80, 0xBF), (0x80, 0xBF)]⟩
      else none := by
  unfold lead?
  simp only [ofNat_lt_iff h, ofNat_eq_iff h, UInt8.toNat_ofNat', Nat.mod_eq_of_lt h,
    UInt8.reduceToNat]

theorem readFollow_cons {bits n : Nat} {least greatest : UInt8} {follow : List (UInt8 × UInt8)}
    {rest : List UInt8} (h : n < 256) (hl : least.toNat ≤ n) (hg : n ≤ greatest.toNat) :
    readFollow bits ((least, greatest) :: follow) (UInt8.ofNat n :: rest) =
      readFollow (bits * 64 + (n - 0x80)) follow rest := by
  rw [readFollow, if_pos ⟨(le_ofNat_iff h).2 hl, (ofNat_le_iff h).2 hg⟩, UInt8.toNat_ofNat',
    Nat.mod_eq_of_lt h]

/-- A byte for the last six bits of a number is taken up with just these. -/
theorem readFollow_lowBits {bits v : Nat} {follow : List (UInt8 × UInt8)} {rest : List UInt8} :
    readFollow bits ((0x80, 0xBF) :: follow) (UInt8.ofNat (v % 64 + 0x80) :: rest) =
      readFollow (bits * 64 + v % 64) follow rest := by
  rw [readFollow_cons (by omega) (by simp) (by simp; omega), Nat.add_sub_cancel]

/-- Where the bytes behind an announced first byte give a code point, a unit gives its character. -/
theorem readUnit_eq {b : UInt8} {rest left : List UInt8} {lead : Lead} {code : Nat}
    (hl : lead? b = some lead)
    (hr : readFollow lead.bits lead.follow rest = (some code, left)) :
    readUnit b rest = (some (Char.ofNat code), left) := by
  rw [readUnit, hl]
  simp only [hr, Option.map_some]

/-- The first of three bytes, and the range it leaves for the second. -/
theorem lead?_three {v : Nat} (h1 : 0x800 ≤ v) (h2 : v < 0xD800 ∨ 0xDFFF < v) (h3 : v ≤ 0xFFFF) :
    ∃ least greatest,
      lead? (UInt8.ofNat (v / 4096 % 16 + 0xE0)) =
        some ⟨v / 4096, [(least, greatest), (0x80, 0xBF)]⟩ ∧
      least.toNat ≤ v / 64 % 64 + 0x80 ∧ v / 64 % 64 + 0x80 ≤ greatest.toNat := by
  have hn : v / 4096 % 16 = v / 4096 := by omega
  rw [lead?_ofNat (by omega), hn, if_neg (by omega), if_neg (by omega), if_neg (by omega)]
  split_ifs with he hd hf
  · exact ⟨0xA0, 0xBF, by rw [show v / 4096 = 0 by omega], by simp; omega, by simp; omega⟩
  · exact ⟨0x80, 0x9F, by rw [show v / 4096 = 0xD by omega], by simp, by simp; omega⟩
  · exact ⟨0x80, 0xBF, by rw [Nat.add_sub_cancel], by simp, by simp; omega⟩
  all_goals omega

theorem lead?_four {v : Nat} (h1 : 0x10000 ≤ v) (h2 : v < 0x110000) :
    ∃ least greatest,
      lead? (UInt8.ofNat (v / 262144 % 8 + 0xF0)) =
        some ⟨v / 262144, [(least, greatest), (0x80, 0xBF), (0x80, 0xBF)]⟩ ∧
      least.toNat ≤ v / 4096 % 64 + 0x80 ∧ v / 4096 % 64 + 0x80 ≤ greatest.toNat := by
  have hn : v / 262144 % 8 = v / 262144 := by omega
  rw [lead?_ofNat (by omega), hn, if_neg (by omega), if_neg (by omega), if_neg (by omega),
    if_neg (by omega), if_neg (by omega), if_neg (by omega)]
  split_ifs with he hl hf
  · exact ⟨0x90, 0xBF, by rw [show v / 262144 = 0 by omega], by simp; omega, by simp; omega⟩
  · exact ⟨0x80, 0xBF, by rw [Nat.add_sub_cancel], by simp, by simp; omega⟩
  · exact ⟨0x80, 0x8F, by rw [show v / 262144 = 4 by omega], by simp, by simp; omega⟩
  · omega

/-- The bytes of a character, a first one and those that follow it, are read as that character,
whatever stands behind them. -/
theorem readUnit_encodeChar (c : Char) :
    ∃ b follow, String.utf8EncodeChar c = b :: follow ∧
      ∀ rest, readUnit b (follow ++ rest) = (some c, rest) := by
  have hmax : c.toNat < 0xD800 ∨ 0xDFFF < c.toNat ∧ c.toNat < 0x110000 := c.valid
  have hc : Char.ofNat c.toNat = c := Char.ofNat_toNat c
  generalize hv : c.toNat = v at hmax hc
  have hval : c.val.toNat = v := hv
  unfold String.utf8EncodeChar
  simp only [hval]
  -- one case for each number of bytes
  split_ifs with h1 h2 h3
  · refine ⟨_, _, rfl, fun rest => ?_⟩
    have hl : lead? (UInt8.ofNat v) = some ⟨v, []⟩ := by
      rw [lead?_ofNat (by omega), if_pos (by omega)]
    rw [readUnit_eq hl rfl, hc]
    rfl
  · refine ⟨_, _, rfl, fun rest => ?_⟩
    have hl : lead? (UInt8.ofNat (v / 64 % 32 + 0xC0)) = some ⟨v / 64, [(0x80, 0xBF)]⟩ := by
      rw [lead?_ofNat (by omega), if_neg (by omega), if_neg (by omega), if_pos (by omega),
        Nat.add_sub_cancel, Nat.mod_eq_of_lt (by omega)]
    have hr : readFollow (v / 64) [(0x80, 0xBF)] (UInt8.ofNat (v % 64 + 0x80) :: rest) =
        (some v, rest) := by
      rw [readFollow_lowBits, readFollow, Nat.div_add_mod']
    rw [List.cons_append, List.nil_append, readUnit_eq hl hr, hc]
  · obtain ⟨least, greatest, hl, hleast, hgreatest⟩ := lead?_three (by omega) (by omega) h3
    refine ⟨_, _, rfl, fun rest => ?_⟩
    have hr : readFollow (v / 4096) [(least, greatest), (0x80, 0xBF)]
        (UInt8.ofNat (v / 64 % 64 + 0x80) :: UInt8.ofNat (v % 64 + 0x80) :: rest) =
        (some v, rest) := by
      rw [readFollow_cons (by omega) hleast hgreatest, Nat.add_sub_cancel, readFollow_lowBits,
        readFollow, show (v / 4096 * 64 + v / 64 % 64) * 64 + v % 64 = v by omega]
    rw [List.cons_append, List.cons_append, List.nil_append, readUnit_eq hl hr, hc]
  · obtain ⟨least, greatest, hl, hleast, hgreatest⟩ := @lead?_four v (by omega) (by omega)
    refine ⟨_, _, rfl, fun rest => ?_⟩
    have hr : readFollow (v / 262144) [(least, greatest), (0x80, 0xBF), (0x80, 0xBF)]
        (UInt8.ofNat (v / 4096 % 64 + 0x80) :: UInt8.ofNat (v / 64 % 64 + 0x80) ::
          UInt8.ofNat (v % 64 + 0x80) :: rest) = (some v, rest) := by
      rw [readFollow_cons (by omega) hleast hgreatest, Nat.add_sub_cancel, readFollow_lowBits,
        readFollow_lowBits, readFollow,
        show ((v / 262144 * 64 + v / 4096 % 64) * 64 + v / 64 % 64) * 64 + v % 64 = v by omega]
    rw [List.cons_append, List.cons_append, List.cons_append, List.nil_append, readUnit_eq hl hr,
      hc]

/-! ## Reading a text -/

theorem split_encodeChar_append (c : Char) (rest : List UInt8) :
    split (String.utf8EncodeChar c ++ rest) = some c :: split rest := by
  obtain ⟨b, follow, he, hread⟩ := readUnit_encodeChar c
  rw [he, List.cons_append, split, hread]

theorem split_flatMap_append (cs : List Char) (rest : List UInt8) :
    split (cs.flatMap String.utf8EncodeChar ++ rest) = cs.map some ++ split rest := by
  induction cs with
  | nil => rfl
  | cons c cs ih =>
    rw [List.flatMap_cons, List.append_assoc, split_encodeChar_append, ih, List.map_cons,
      List.cons_append]

theorem decode?_encode (s : String) : decode? (encode s) = some s := by
  rw [decode?_eq_some_iff_split]
  have h := split_flatMap_append s.toList []
  rwa [List.append_nil, split, List.append_nil] at h

/-! ## Only the bytes of a text spell it -/

theorem readFollow_cons_eq_some {bits code : Nat} {least greatest : UInt8}
    {follow : List (UInt8 × UInt8)} {bytes left : List UInt8}
    (h : readFollow bits ((least, greatest) :: follow) bytes = (some code, left)) :
    ∃ b rest, bytes = b :: rest ∧ least.toNat ≤ b.toNat ∧ b.toNat ≤ greatest.toNat ∧
      readFollow (bits * 64 + (b.toNat - 0x80)) follow rest = (some code, left) := by
  cases bytes with
  | nil => simp [readFollow] at h
  | cons b rest =>
    rw [readFollow] at h
    split_ifs at h with hb
    · exact ⟨b, rest, rfl, UInt8.le_iff_toNat_le.1 hb.1, UInt8.le_iff_toNat_le.1 hb.2, h⟩
    · simp at h

theorem readFollow_nil_eq_some {bits code : Nat} {bytes left : List UInt8}
    (h : readFollow bits [] bytes = (some code, left)) : code = bits ∧ left = bytes := by
  rw [readFollow, Prod.mk.injEq, Option.some.injEq] at h
  exact ⟨h.1.symm, h.2.symm⟩

theorem toNat_ofNat {v : Nat} (h : v.isValidChar) : (Char.ofNat v).toNat = v := by
  rw [Char.ofNat, dif_pos h]
  rfl

theorem encodeChar_ofNat {v : Nat} (h : v.isValidChar) :
    String.utf8EncodeChar (Char.ofNat v) =
      if v ≤ 0x7F then [UInt8.ofNat v]
      else if v ≤ 0x7FF then [UInt8.ofNat (v / 64 % 32 + 0xC0), UInt8.ofNat (v % 64 + 0x80)]
      else if v ≤ 0xFFFF then
        [UInt8.ofNat (v / 4096 % 16 + 0xE0), UInt8.ofNat (v / 64 % 64 + 0x80),
          UInt8.ofNat (v % 64 + 0x80)]
      else
        [UInt8.ofNat (v / 262144 % 8 + 0xF0), UInt8.ofNat (v / 4096 % 64 + 0x80),
          UInt8.ofNat (v / 64 % 64 + 0x80), UInt8.ofNat (v % 64 + 0x80)] := by
  have hval : (Char.ofNat v).val.toNat = v := toNat_ofNat h
  unfold String.utf8EncodeChar
  simp only [hval]

theorem ofNat_eq_of (b : UInt8) {n : Nat} (h : n = b.toNat) : UInt8.ofNat n = b := by
  rw [h, UInt8.ofNat_toNat]

section

variable {bits code : Nat} {least greatest b : UInt8} {rest left : List UInt8}

theorem eq_of_readFollow_one (hb : 0xC2 ≤ b.toNat ∧ b.toNat < 0xE0) (hbits : bits = b.toNat - 0xC0)
    (h : readFollow bits [(0x80, 0xBF)] rest = (some code, left)) :
    b :: rest = String.utf8EncodeChar (Char.ofNat code) ++ left := by
  obtain ⟨c, rest, rfl, hc, hc', h⟩ := readFollow_cons_eq_some h
  obtain ⟨hcode, rfl⟩ := readFollow_nil_eq_some h
  simp only [UInt8.reduceToNat] at hc hc'
  rw [hcode, encodeChar_ofNat (.inl (by omega)), if_neg (by omega), if_pos (by omega),
    ofNat_eq_of b (by omega), ofNat_eq_of c (by omega)]
  rfl

/-- A first byte and the two that must follow it are those of a character: none that is spelled
longer than it has to be, and no surrogate. -/
theorem eq_of_readFollow_two (hb : 0xE0 ≤ b.toNat ∧ b.toNat < 0xF0) (hbits : bits = b.toNat - 0xE0)
    (hrange : 0x80 ≤ least.toNat ∧ greatest.toNat ≤ 0xBF)
    (hlong : b.toNat = 0xE0 → 0xA0 ≤ least.toNat)
    (hsurrogate : b.toNat = 0xED → greatest.toNat ≤ 0x9F)
    (h : readFollow bits [(least, greatest), (0x80, 0xBF)] rest = (some code, left)) :
    b :: rest = String.utf8EncodeChar (Char.ofNat code) ++ left := by
  obtain ⟨c, rest, rfl, hc, hc', h⟩ := readFollow_cons_eq_some h
  obtain ⟨d, rest, rfl, hd, hd', h⟩ := readFollow_cons_eq_some h
  obtain ⟨hcode, rfl⟩ := readFollow_nil_eq_some h
  simp only [UInt8.reduceToNat] at hd hd'
  rw [hcode, encodeChar_ofNat (by unfold Nat.isValidChar; omega), if_neg (by omega),
    if_neg (by omega), if_pos (by omega), ofNat_eq_of b (by omega), ofNat_eq_of c (by omega),
    ofNat_eq_of d (by omega)]
  rfl

/-- A first byte and the three that must follow it are those of a character: none that is spelled
longer than it has to be, and none beyond the last code point. -/
theorem eq_of_readFollow_three (hb : 0xF0 ≤ b.toNat ∧ b.toNat < 0xF5)
    (hbits : bits = b.toNat - 0xF0) (hrange : 0x80 ≤ least.toNat ∧ greatest.toNat ≤ 0xBF)
    (hlong : b.toNat = 0xF0 → 0x90 ≤ least.toNat) (hbeyond : b.toNat = 0xF4 → greatest.toNat ≤ 0x8F)
    (h : readFollow bits [(least, greatest), (0x80, 0xBF), (0x80, 0xBF)] rest = (some code, left)) :
    b :: rest = String.utf8EncodeChar (Char.ofNat code) ++ left := by
  obtain ⟨c, rest, rfl, hc, hc', h⟩ := readFollow_cons_eq_some h
  obtain ⟨d, rest, rfl, hd, hd', h⟩ := readFollow_cons_eq_some h
  obtain ⟨e, rest, rfl, he, he', h⟩ := readFollow_cons_eq_some h
  obtain ⟨hcode, rfl⟩ := readFollow_nil_eq_some h
  simp only [UInt8.reduceToNat] at hd hd' he he'
  rw [hcode, encodeChar_ofNat (by unfold Nat.isValidChar; omega), if_neg (by omega),
    if_neg (by omega), if_neg (by omega), ofNat_eq_of b (by omega), ofNat_eq_of c (by omega),
    ofNat_eq_of d (by omega), ofNat_eq_of e (by omega)]
  rfl

/-- What reading a unit goes through when it gives a character. -/
theorem readUnit_eq_some {c : Char} (h : readUnit b rest = (some c, left)) :
    ∃ lead code, lead? b = some lead ∧
      readFollow lead.bits lead.follow rest = (some code, left) ∧ c = Char.ofNat code := by
  unfold readUnit at h
  split at h
  · simp at h
  · rename_i lead hlead
    obtain ⟨hchar, hleft⟩ := Prod.mk.inj h
    obtain ⟨code, hcode, rfl⟩ := Option.map_eq_some_iff.1 hchar
    exact ⟨lead, code, hlead, Prod.ext hcode hleft, rfl⟩

theorem eq_of_readUnit {c : Char} (h : readUnit b rest = (some c, left)) :
    b :: rest = String.utf8EncodeChar c ++ left := by
  obtain ⟨lead, code, hlead, hfollow, rfl⟩ := readUnit_eq_some h
  obtain ⟨n, hn, rfl⟩ : ∃ n, n < 256 ∧ UInt8.ofNat n = b := ⟨b.toNat, b.toNat_lt, UInt8.ofNat_toNat⟩
  have hb : (UInt8.ofNat n).toNat = n := by rw [UInt8.toNat_ofNat', Nat.mod_eq_of_lt hn]
  rw [lead?_ofNat hn] at hlead
  -- one case for each row of the table of first bytes
  split_ifs at hlead with h1 h2 h3 hlong h5 h6 h7 h8 h9
  all_goals
    rw [Option.some.injEq] at hlead
    subst hlead
    dsimp only at hfollow
  · obtain ⟨hcode, hleft⟩ := readFollow_nil_eq_some hfollow
    rw [hcode, hleft, encodeChar_ofNat (.inl (by omega)), if_pos (by omega)]
    rfl
  · exact eq_of_readFollow_one (by omega) (by omega) hfollow
  · exact eq_of_readFollow_two (by omega) (by omega) (by simp) (by simp) (by omega) hfollow
  · exact eq_of_readFollow_two (by omega) (by omega) (by simp) (by omega) (by simp) hfollow
  · exact eq_of_readFollow_two (by omega) (by omega) (by simp) (by omega) (by omega) hfollow
  · exact eq_of_readFollow_three (by omega) (by omega) (by simp) (by simp) (by omega) hfollow
  · exact eq_of_readFollow_three (by omega) (by omega) (by simp) (by omega) (by omega) hfollow
  · exact eq_of_readFollow_three (by omega) (by omega) (by simp) (by omega) (by simp) hfollow

end

/-- Bytes that split into characters are the bytes of those characters. -/
theorem eq_of_split {bytes : List UInt8} {cs : List Char} (h : split bytes = cs.map some) :
    bytes = cs.flatMap String.utf8EncodeChar := by
  induction cs generalizing bytes with
  | nil =>
    cases bytes with
    | nil => rfl
    | cons b rest => simp [split] at h
  | cons c cs ih =>
    cases bytes with
    | nil => simp [split] at h
    | cons b rest =>
      rw [split, List.map_cons] at h
      generalize hunit : readUnit b rest = unit at h
      obtain ⟨c', left⟩ := unit
      obtain ⟨rfl, hleft⟩ := List.cons.inj h
      rw [eq_of_readUnit hunit, List.flatMap_cons]
      exact congrArg _ (ih hleft)

/-- Strict decoding gives a text exactly for the bytes of that text. -/
theorem decode?_eq_some_iff {bytes : List UInt8} {s : String} :
    decode? bytes = some s ↔ bytes = encode s := by
  constructor
  · intro h
    exact eq_of_split (decode?_eq_some_iff_split.1 h)
  · rintro rfl
    exact decode?_encode s

/-! ## The order of texts -/

theorem ofNat_cons_lt {m n : Nat} (hm : m < 256) (hn : n < 256) {xs ys : List UInt8} :
    UInt8.ofNat m :: xs < UInt8.ofNat n :: ys ↔ m < n ∨ m = n ∧ xs < ys := by
  rw [List.cons_lt_cons_iff, ofNat_lt_iff hm, ofNat_eq_iff hm, UInt8.toNat_ofNat',
    Nat.mod_eq_of_lt hn]

/-- Of two characters the one with the greater code point has the greater bytes, whatever comes
behind. -/
theorem encodeChar_append_lt {c d : Char} (h : c < d) (xs ys : List UInt8) :
    String.utf8EncodeChar c ++ xs < String.utf8EncodeChar d ++ ys := by
  have hlt : c.val.toNat < d.val.toNat := UInt32.lt_iff_toNat_lt.1 (Char.lt_def.1 h)
  have hmax : d.val.toNat < 0x110000 := by
    rcases d.valid with hd | hd
    · exact Nat.lt_trans hd (by omega)
    · exact hd.2
  unfold String.utf8EncodeChar
  simp only
  generalize c.val.toNat = v at hlt
  generalize d.val.toNat = w at hlt hmax
  have hv1 : v / 64 / 64 = v / 4096 := Nat.div_div_eq_div_mul v 64 64
  have hv2 : v / 4096 / 64 = v / 262144 := Nat.div_div_eq_div_mul v 4096 64
  have hv3 : v / 262144 % 8 = v / 262144 := Nat.mod_eq_of_lt (by omega)
  have hw1 : w / 64 / 64 = w / 4096 := Nat.div_div_eq_div_mul w 64 64
  have hw2 : w / 4096 / 64 = w / 262144 := Nat.div_div_eq_div_mul w 4096 64
  have hw3 : w / 262144 % 8 = w / 262144 := Nat.mod_eq_of_lt (by omega)
  split_ifs <;>
    simp only [List.cons_append, List.nil_append] <;>
    (repeat rw [ofNat_cons_lt (by omega) (by omega)]) <;>
    omega

/-- The order of texts by code point is the order of their bytes. -/
theorem encode_lt_encode {s t : String} (h : s < t) : encode s < encode t := by
  unfold encode
  rw [String.lt_iff] at h
  generalize s.toList = cs at h
  generalize t.toList = ds at h
  induction cs generalizing ds with
  | nil =>
    cases ds with
    | nil => exact absurd h (List.not_lt_nil _)
    | cons d ds =>
      obtain ⟨b, follow, he, -⟩ := readUnit_encodeChar d
      simp [he]
  | cons c cs ih =>
    cases ds with
    | nil => exact absurd h (List.not_lt_nil _)
    | cons d ds =>
      rw [List.flatMap_cons, List.flatMap_cons]
      rcases List.cons_lt_cons_iff.1 h with hcd | ⟨rfl, hrest⟩
      · exact encodeChar_append_lt hcd _ _
      · exact List.append_left_lt (ih _ hrest)

end VendorBuild.Utf8
