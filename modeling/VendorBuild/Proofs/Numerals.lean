import VendorBuild.Source.Literal
import Mathlib.Tactic.Ring
import Mathlib.Tactic.SplitIfs

/-!
# Numerals

A numeral shows a number by the places of its digits: each counts for as many powers of the base as
there are digits behind it. Digits are read into a word of 32 bits from the front, and a word is
wide enough for every numeral that an escape may hold, so the number read is the one that is shown.

Results:
* `digit?_eq_some_iff`: which characters are digits.
* `readDigits_eq_some_iff`: digits are read as the number they show, as long as that fits a word.
-/

namespace VendorBuild.Literal

/-! ## Digits -/

/-- Whether a character is the digit of a number. Beyond nine the digits are letters, small or
capital. -/
def ShowsDigit (c : Char) (d : Nat) : Prop :=
  "0123456789abcdef".toList[d]? = some c ∨ "0123456789ABCDEF".toList[d]? = some c

instance (c : Char) (d : Nat) : Decidable (ShowsDigit c d) :=
  inferInstanceAs (Decidable (_ ∨ _))

theorem ShowsDigit.lt {c : Char} {d : Nat} (h : ShowsDigit c d) : d < 16 := by
  rcases h with h | h
  · exact (List.getElem?_eq_some_iff.1 h).1
  · exact (List.getElem?_eq_some_iff.1 h).1

/-- The characters that show the numbers below a bound. -/
theorem ShowsDigit.mem_take {c : Char} {d bound : Nat} (h : ShowsDigit c d) (hlt : d < bound) :
    c ∈ "0123456789abcdef".toList.take bound ++ "0123456789ABCDEF".toList.take bound := by
  rw [List.mem_append]
  rcases h with h | h
  · exact .inl (List.mem_of_getElem? (by rw [List.getElem?_take_of_lt hlt, h]))
  · exact .inr (List.mem_of_getElem? (by rw [List.getElem?_take_of_lt hlt, h]))

theorem digitNumber?_of_showsDigit {c : Char} {d : Nat} (h : ShowsDigit c d) :
    digitNumber? c = some (UInt32.ofNat d) := by
  have hall : ∀ d < 16,
      "0123456789abcdef".toList[d]?.bind digitNumber? = some (UInt32.ofNat d) ∧
        "0123456789ABCDEF".toList[d]?.bind digitNumber? = some (UInt32.ofNat d) := by
    decide
  obtain ⟨hsmall, hcapital⟩ := hall d h.lt
  rcases h with h | h
  · rwa [h] at hsmall
  · rwa [h] at hcapital

theorem showsDigit_of_digitNumber? {c : Char} {d : UInt32} (h : digitNumber? c = some d) :
    ShowsDigit c d.toNat := by
  have hall : ∀ n < 128, (digitNumber? (Char.ofNat n)).all
      (fun d => decide (ShowsDigit (Char.ofNat n) d.toNat)) = true := by
    decide
  have hc : c.toNat < 128 := by
    unfold digitNumber? at h
    split_ifs at h with h0 ha hA
    · exact Nat.lt_of_le_of_lt (UInt32.le_iff_toNat_le.1 h0.2) (by decide)
    · exact Nat.lt_of_le_of_lt (UInt32.le_iff_toNat_le.1 ha.2) (by decide)
    · exact Nat.lt_of_le_of_lt (UInt32.le_iff_toNat_le.1 hA.2) (by decide)
  have hshows := hall c.toNat hc
  rw [Char.ofNat_toNat, h] at hshows
  exact of_decide_eq_true hshows

theorem digit?_eq_some_iff {base d : UInt32} {c : Char} :
    digit? base c = some d ↔ d.toNat < base.toNat ∧ ShowsDigit c d.toNat := by
  rw [digit?, Option.filter_eq_some_iff, decide_eq_true_eq, UInt32.lt_iff_toNat_lt, and_comm]
  refine and_congr_right fun _ => ⟨showsDigit_of_digitNumber?, fun h => ?_⟩
  rw [digitNumber?_of_showsDigit h, UInt32.ofNat_toNat]

/-! ## Numerals -/

/-- Whether digits of a base show a number, the first of them counting most. -/
inductive IsNumeral (base : Nat) : List Char → Nat → Prop
  | nil : IsNumeral base [] 0
  | cons {c : Char} {d n : Nat} {rest : List Char} (hlt : d < base) (hdigit : ShowsDigit c d)
      (hrest : IsNumeral base rest n) : IsNumeral base (c :: rest) (d * base ^ rest.length + n)

namespace IsNumeral

variable {base m n : Nat} {front back : List Char}

theorem lt (h : IsNumeral base front n) : n < base ^ front.length := by
  induction h with
  | nil => simp
  | @cons c d n rest hlt _ _ ih =>
    rw [List.length_cons, Nat.pow_succ']
    calc d * base ^ rest.length + n < (d + 1) * base ^ rest.length := by rw [Nat.succ_mul]; omega
      _ ≤ base * base ^ rest.length := Nat.mul_le_mul_right _ hlt

theorem append (h : IsNumeral base front m) (h' : IsNumeral base back n) :
    IsNumeral base (front ++ back) (m * base ^ back.length + n) := by
  induction h with
  | nil => simpa using h'
  | @cons c d m rest hlt hdigit _ ih =>
    have hnum : (d * base ^ rest.length + m) * base ^ back.length + n =
        d * base ^ (rest ++ back).length + (m * base ^ back.length + n) := by
      rw [List.length_append, Nat.pow_add]
      ring
    rw [hnum]
    exact .cons hlt hdigit ih

theorem singleton {c : Char} {d : Nat} (hlt : d < base) (hdigit : ShowsDigit c d) :
    IsNumeral base [c] d := by
  simpa using cons hlt hdigit nil

theorem exists_showsDigit {c : Char} (h : IsNumeral base front n) (hc : c ∈ front) :
    ∃ d < base, ShowsDigit c d := by
  induction h with
  | nil => cases hc
  | cons hlt hdigit _ ih =>
    obtain rfl | hc := List.mem_cons.1 hc
    · exact ⟨_, hlt, hdigit⟩
    · exact ih hc

end IsNumeral

/-! ## Reading -/

/-- A word that has room for one more digit takes it up without wrapping around. -/
theorem toNat_mul_add {base value d : UInt32} {count : Nat}
    (hfits : (value.toNat + 1) * base.toNat ^ (count + 1) ≤ 2 ^ 32) (hd : d.toNat < base.toNat) :
    (value * base + d).toNat = value.toNat * base.toNat + d.toNat ∧
      ((value * base + d).toNat + 1) * base.toNat ^ count ≤ 2 ^ 32 := by
  have hstep : (value.toNat * base.toNat + d.toNat + 1) * base.toNat ^ count ≤ 2 ^ 32 :=
    calc (value.toNat * base.toNat + d.toNat + 1) * base.toNat ^ count
        ≤ (value.toNat * base.toNat + base.toNat) * base.toNat ^ count :=
          Nat.mul_le_mul_right _ (by omega)
      _ = (value.toNat + 1) * base.toNat ^ (count + 1) := by ring
      _ ≤ 2 ^ 32 := hfits
  have hlt : value.toNat * base.toNat + d.toNat < 2 ^ 32 := by
    have hpos : 0 < base.toNat ^ count := Nat.pow_pos (by omega)
    have := Nat.le_mul_of_pos_right (value.toNat * base.toNat + d.toNat + 1) hpos
    omega
  have hword : (value * base + d).toNat = value.toNat * base.toNat + d.toNat := by
    rw [UInt32.toNat_add, UInt32.toNat_mul, Nat.mod_add_mod, Nat.mod_eq_of_lt hlt]
  exact ⟨hword, by rwa [hword]⟩

/-- Digits that continue a number are read as the number they then show together, as long as a word
has room for it. -/
theorem readDigits_eq_some_iff {base value code : UInt32} {count : Nat} {cs left : List Char}
    (hfits : (value.toNat + 1) * base.toNat ^ count ≤ 2 ^ 32) :
    readDigits base value count cs = some (code, left) ↔
      ∃ digits n, cs = digits ++ left ∧ digits.length = count ∧
        IsNumeral base.toNat digits n ∧ code.toNat = value.toNat * base.toNat ^ count + n := by
  induction count generalizing value cs with
  | zero =>
    rw [readDigits, Option.some.injEq, Prod.mk.injEq]
    constructor
    · rintro ⟨rfl, rfl⟩
      exact ⟨[], 0, rfl, rfl, .nil, by simp⟩
    · rintro ⟨digits, n, rfl, hlen, hnum, hcode⟩
      rw [List.length_eq_zero_iff] at hlen
      subst hlen
      cases hnum
      exact ⟨UInt32.toNat_inj.1 (by simpa using hcode.symm), rfl⟩
  | succ count ih =>
    cases cs with
    | nil =>
      rw [readDigits]
      constructor
      · intro h
        cases h
      · rintro ⟨digits, n, happend, hlen, -⟩
        rw [(List.append_eq_nil_iff.1 happend.symm).1] at hlen
        cases hlen
    | cons c rest =>
      rw [readDigits, Option.bind_eq_bind, Option.bind_eq_some_iff]
      constructor
      · rintro ⟨d, hd, hrest⟩
        obtain ⟨hlt, hdigit⟩ := digit?_eq_some_iff.1 hd
        obtain ⟨hword, hfits'⟩ := toNat_mul_add hfits hlt
        obtain ⟨digits, n, rfl, rfl, hnum, hcode⟩ := (ih hfits').1 hrest
        refine ⟨c :: digits, _, rfl, rfl, .cons hlt hdigit hnum, ?_⟩
        rw [hcode, hword]
        ring
      · rintro ⟨digits, n, happend, hlen, hnum, hcode⟩
        cases hnum with
        | nil => cases hlen
        | @cons e d n digits hlt hdigit hnum =>
          obtain ⟨rfl, rfl⟩ := List.cons.inj happend
          have hd : (UInt32.ofNat d).toNat = d :=
            UInt32.toNat_ofNat_of_lt' (Nat.lt_trans hdigit.lt (by decide))
          rw [← hd] at hlt hdigit
          obtain ⟨hword, hfits'⟩ := toNat_mul_add hfits hlt
          refine ⟨UInt32.ofNat d, digit?_eq_some_iff.2 ⟨hlt, hdigit⟩, (ih hfits').2 ?_⟩
          refine ⟨digits, n, rfl, Nat.succ.inj hlen, hnum, ?_⟩
          rw [hcode, hword, hd, ← Nat.succ.inj hlen]
          ring

/-- Digits are read as the number they show, if every numeral of that width fits a word. -/
theorem readDigits_zero_eq_some_iff {base code : UInt32} {count : Nat} {cs left : List Char}
    (hfits : base.toNat ^ count ≤ 2 ^ 32) :
    readDigits base 0 count cs = some (code, left) ↔
      ∃ digits, cs = digits ++ left ∧ digits.length = count ∧
        IsNumeral base.toNat digits code.toNat := by
  rw [readDigits_eq_some_iff (by simpa using hfits)]
  constructor
  · rintro ⟨digits, n, happend, hlen, hnum, hcode⟩
    rw [UInt32.toNat_zero, Nat.zero_mul, Nat.zero_add] at hcode
    exact ⟨digits, happend, hlen, hcode ▸ hnum⟩
  · rintro ⟨digits, happend, hlen, hnum⟩
    exact ⟨digits, _, happend, hlen, hnum, by simp⟩

end VendorBuild.Literal
