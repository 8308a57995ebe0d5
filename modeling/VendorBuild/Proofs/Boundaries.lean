import VendorBuild.Proofs.Utf8

/-!
# Where characters begin among bytes

Bytes are read from the front, unit by unit, so a text that is decoded from bytes can be cut
anywhere, and the bytes are cut along with it. A byte that starts a character continues no other, so
the bytes of a character are read as that character wherever they stand, behind whatever broken
bytes. What is decoded without a replacement character is decoded from its own bytes.

Results:
* `exists_append_of_decodeLossy`: a decoded text is cut together with its bytes.
* `mem_of_encode_eq_append`: the bytes of a character are in a text only where the character is.
* `eq_encode_of_decodeLossy`: bytes decoded without a replacement character spell the text.
-/

namespace VendorBuild.Utf8

/-! ## Cutting a text -/

/-- The bytes that must follow are read the same if what is left behind them is cut short. -/
theorem readFollow_prefix (bits : Nat) (follow : List (UInt8 × UInt8)) (bytes : List UInt8) :
    ∃ taken, bytes = taken ++ (readFollow bits follow bytes).2 ∧
      ∀ front, front <+: (readFollow bits follow bytes).2 →
        readFollow bits follow (taken ++ front) = ((readFollow bits follow bytes).1, front) := by
  fun_induction readFollow bits follow bytes with
  | case1 bits rest => exact ⟨[], rfl, fun front _ => rfl⟩
  | case2 bits range follow =>
    refine ⟨[], rfl, fun front hfront => ?_⟩
    rw [List.prefix_nil.1 hfront]
    rfl
  | case3 bits least greatest follow b rest hb ih =>
    obtain ⟨taken, hrest, hread⟩ := ih
    refine ⟨b :: taken, congrArg (b :: ·) hrest, fun front hfront => ?_⟩
    rw [List.cons_append, readFollow, if_pos hb]
    exact hread front hfront
  | case4 bits least greatest follow b rest hb =>
    refine ⟨[], rfl, fun front hfront => ?_⟩
    obtain rfl | ⟨front, rfl, -⟩ := List.prefix_cons_iff.1 hfront
    · rfl
    · rw [List.nil_append, readFollow, if_neg hb]

theorem readUnit_prefix (b : UInt8) (rest : List UInt8) :
    ∃ taken, rest = taken ++ (readUnit b rest).2 ∧
      ∀ front, front <+: (readUnit b rest).2 →
        readUnit b (taken ++ front) = ((readUnit b rest).1, front) := by
  unfold readUnit
  split
  · exact ⟨[], rfl, fun front _ => rfl⟩
  · rename_i lead _
    obtain ⟨taken, hrest, hread⟩ := readFollow_prefix lead.bits lead.follow rest
    refine ⟨taken, hrest, fun front hfront => ?_⟩
    simp only [hread front hfront]

/-- Where the units of bytes are cut, the bytes can be cut. -/
theorem exists_append_of_split {bytes : List UInt8} {units more : List (Option Char)}
    (h : split bytes = units ++ more) :
    ∃ front back, bytes = front ++ back ∧ split front = units ∧ split back = more := by
  induction units generalizing bytes with
  | nil => exact ⟨[], bytes, rfl, by rw [split], h⟩
  | cons unit units ih =>
    cases bytes with
    | nil => simp [split] at h
    | cons b rest =>
      rw [split, List.cons_append] at h
      obtain ⟨rfl, hleft⟩ := List.cons.inj h
      obtain ⟨taken, hrest, hread⟩ := readUnit_prefix b rest
      obtain ⟨front, back, hcut, hfront, hback⟩ := ih hleft
      refine ⟨b :: (taken ++ front), back, ?_, ?_, hback⟩
      · rw [List.cons_append, List.append_assoc, ← hcut, ← hrest]
      · rw [split, hread front ⟨back, hcut.symm⟩, hfront]

theorem exists_append_of_decodeLossy {bytes : List UInt8} {text more : List Char}
    (h : (decodeLossy bytes).toList = text ++ more) :
    ∃ front back, bytes = front ++ back ∧ (decodeLossy front).toList = text ∧
      (decodeLossy back).toList = more := by
  rw [decodeLossy, String.toList_ofList] at h
  obtain ⟨units, rest, hsplit, rfl, rfl⟩ := List.map_eq_append_iff.1 h
  obtain ⟨front, back, rfl, rfl, rfl⟩ := exists_append_of_split hsplit
  exact ⟨front, back, rfl, String.toList_ofList, String.toList_ofList⟩

/-! ## Characters behind other bytes -/

/-- What must follow a first byte can start no character. -/
theorem range_of_lead? {b : UInt8} {lead : Lead} (h : lead? b = some lead) :
    ∀ r ∈ lead.follow, 0x80 ≤ r.1.toNat ∧ r.2.toNat ≤ 0xBF := by
  unfold lead? at h
  split_ifs at h
  all_goals
    rw [Option.some.injEq] at h
    subst h
    simp

theorem lt_or_lt_of_lead? {b : UInt8} {lead : Lead} (h : lead? b = some lead) :
    b.toNat < 0x80 ∨ 0xBF < b.toNat := by
  rw [← UInt8.ofNat_toNat (x := b), lead?_ofNat b.toNat_lt] at h
  by_cases h80 : b.toNat < 0x80
  · exact .inl h80
  · rw [if_neg h80] at h
    by_cases hC2 : b.toNat < 0xC2
    · rw [if_pos hC2] at h
      cases h
    · exact .inr (by omega)

theorem readFollow_append {bits : Nat} {follow : List (UInt8 × UInt8)} {bytes back : List UInt8}
    (hfollow : ∀ r ∈ follow, 0x80 ≤ r.1.toNat ∧ r.2.toNat ≤ 0xBF)
    (hback : ∀ b ∈ back.head?, b.toNat < 0x80 ∨ 0xBF < b.toNat) :
    readFollow bits follow (bytes ++ back) =
      ((readFollow bits follow bytes).1, (readFollow bits follow bytes).2 ++ back) := by
  fun_induction readFollow bits follow bytes with
  | case1 bits rest => rfl
  | case2 bits range follow =>
    cases back with
    | nil => rfl
    | cons b back =>
      obtain ⟨least, greatest⟩ := range
      obtain ⟨hleast, hgreatest⟩ := (List.forall_mem_cons.1 hfollow).1
      have hout : ¬ (least ≤ b ∧ b ≤ greatest) := by
        rw [UInt8.le_iff_toNat_le, UInt8.le_iff_toNat_le]
        have hb := hback b rfl
        dsimp only at hleast hgreatest
        omega
      rw [List.nil_append, readFollow, if_neg hout]
  | case3 bits least greatest follow b rest hb ih =>
    rw [List.cons_append, readFollow, if_pos hb]
    exact ih (List.forall_mem_cons.1 hfollow).2
  | case4 bits least greatest follow b rest hb =>
    rw [List.cons_append, readFollow, if_neg hb]

theorem readUnit_append {b : UInt8} {rest back : List UInt8}
    (hback : ∀ b ∈ back.head?, b.toNat < 0x80 ∨ 0xBF < b.toNat) :
    readUnit b (rest ++ back) = ((readUnit b rest).1, (readUnit b rest).2 ++ back) := by
  unfold readUnit
  split
  · rfl
  · rename_i lead hlead
    simp only [readFollow_append (range_of_lead? hlead) hback]

/-- Bytes that start a character, or nothing, are read apart from what stands in front of them. -/
theorem split_append {front back : List UInt8}
    (hback : ∀ b ∈ back.head?, b.toNat < 0x80 ∨ 0xBF < b.toNat) :
    split (front ++ back) = split front ++ split back := by
  fun_induction split front with
  | case1 => rfl
  | case2 b rest ih => rw [List.cons_append, split, readUnit_append hback, ih, List.cons_append]

theorem split_append_encodeChar (front back : List UInt8) (c : Char) :
    split (front ++ String.utf8EncodeChar c ++ back) = split front ++ some c :: split back := by
  rw [List.append_assoc, split_append, split_encodeChar_append]
  obtain ⟨b, follow, hbytes, hread⟩ := readUnit_encodeChar c
  obtain ⟨lead, -, hlead, -⟩ := readUnit_eq_some (hread [])
  rw [hbytes]
  rintro b' hb'
  cases hb'
  exact lt_or_lt_of_lead? hlead

/-- The bytes of a character are among those of a text only if the character is in the text. -/
theorem mem_of_encode_eq_append {text : String} {front back : List UInt8} {c : Char}
    (h : encode text = front ++ String.utf8EncodeChar c ++ back) : c ∈ text.toList := by
  have hsplit := decode?_eq_some_iff_split.1 (decode?_encode text)
  rw [h, split_append_encodeChar] at hsplit
  have hmem : some c ∈ text.toList.map some := by simp [← hsplit]
  obtain ⟨d, hd, hdc⟩ := List.mem_map.1 hmem
  cases hdc
  exact hd

/-! ## Texts without replacement characters -/

/-- Bytes that are decoded without a replacement character spell the text. -/
theorem eq_encode_of_decodeLossy {bytes : List UInt8} {text : String}
    (h : decodeLossy bytes = text) (htext : '\uFFFD' ∉ text.toList) : bytes = encode text := by
  subst h
  rw [decodeLossy, String.toList_ofList] at htext
  -- no unit is ill-formed, since one would be decoded as the replacement character
  have hunits : split bytes = ((split bytes).map (·.getD '\uFFFD')).map some := by
    rw [List.map_map]
    refine (List.map_id' (split bytes)).symm.trans (List.map_congr_left fun unit hunit => ?_)
    cases unit with
    | none => exact absurd (List.mem_map_of_mem hunit) htext
    | some c => rfl
  rw [encode, decodeLossy, String.toList_ofList]
  exact eq_of_split hunits

end VendorBuild.Utf8
