/-!
# UTF-8

Bytes are read from the front as a list of characters and of ill-formed runs. A run is the longest
stretch of bytes that starts like a character and then breaks off, or else one byte that can start
no character; reading goes on right behind it. Strict decoding accepts bytes without such a run,
lossy decoding puts the replacement character in the place of each.

Results:
* `length_readUnit`: reading never lengthens what is left, so splitting ends.
* `decode?_eq_some_iff_split`: strict decoding succeeds exactly when no run is ill-formed.
* `decodeLossy_of_decode?`: where strict decoding succeeds, lossy decoding agrees with it.
-/

namespace VendorBuild.Utf8

/-- The bytes of a text. -/
def encode (s : String) : List UInt8 := s.toList.flatMap String.utf8EncodeChar

/-- What a first byte announces: its share of the code point, and for each byte that must follow the
    least and the greatest value it may have. -/
structure Lead where
  bits : Nat
  follow : List (UInt8 × UInt8)

/-- The announcement of a first byte, `none` for a byte that can start no character. The narrowed
    ranges after `E0`, `ED`, `F0` and `F4` keep out longer spellings, surrogates and code points
    above `10FFFF`. -/
def lead? (b : UInt8) : Option Lead :=
  if b < 0x80 then some ⟨b.toNat, []⟩
  else if b < 0xC2 then none
  else if b < 0xE0 then some ⟨b.toNat - 0xC0, [(0x80, 0xBF)]⟩
  else if b = 0xE0 then some ⟨0, [(0xA0, 0xBF), (0x80, 0xBF)]⟩
  else if b = 0xED then some ⟨0xD, [(0x80, 0x9F), (0x80, 0xBF)]⟩
  else if b < 0xF0 then some ⟨b.toNat - 0xE0, [(0x80, 0xBF), (0x80, 0xBF)]⟩
  else if b = 0xF0 then some ⟨0, [(0x90, 0xBF), (0x80, 0xBF), (0x80, 0xBF)]⟩
  else if b < 0xF4 then some ⟨b.toNat - 0xF0, [(0x80, 0xBF), (0x80, 0xBF), (0x80, 0xBF)]⟩
  else if b = 0xF4 then some ⟨4, [(0x80, 0x8F), (0x80, 0xBF), (0x80, 0xBF)]⟩
  else none

/-- Reads the bytes that must follow, six bits from each. Gives the code point, or `none` where the
    bytes break off, and what is left. -/
def readFollow (bits : Nat) : List (UInt8 × UInt8) → List UInt8 → Option Nat × List UInt8
  | [], rest => (some bits, rest)
  | _ :: _, [] => (none, [])
  | (least, greatest) :: follow, b :: rest =>
    if least ≤ b ∧ b ≤ greatest then readFollow (bits * 64 + (b.toNat - 0x80)) follow rest
    else (none, b :: rest)

/-- Reads one character, or one ill-formed run as `none`, from bytes that start with `b`. -/
def readUnit (b : UInt8) (rest : List UInt8) : Option Char × List UInt8 :=
  match lead? b with
  | none => (none, rest)
  | some lead =>
    let (code, left) := readFollow lead.bits lead.follow rest
    (code.map Char.ofNat, left)

theorem length_readFollow (bits : Nat) (follow : List (UInt8 × UInt8)) (bytes : List UInt8) :
    (readFollow bits follow bytes).2.length ≤ bytes.length := by
  fun_induction readFollow bits follow bytes with
  | case1 => simp
  | case2 => simp
  | case3 _ _ _ _ _ _ _ ih => simp only [List.length_cons]; omega
  | case4 => simp

/-- What is left after a unit is no longer than what followed its first byte. -/
theorem length_readUnit (b : UInt8) (rest : List UInt8) :
    (readUnit b rest).2.length ≤ rest.length := by
  unfold readUnit
  split
  · simp
  · exact length_readFollow ..

/-- The characters of the bytes in order, with `none` for each ill-formed run. -/
def split : List UInt8 → List (Option Char)
  | [] => []
  | b :: rest => (readUnit b rest).1 :: split (readUnit b rest).2
termination_by bytes => bytes.length
decreasing_by have := length_readUnit b rest; simp only [List.length_cons]; omega

/-- The text that the bytes spell, if they are well-formed throughout. -/
def decode? (bytes : List UInt8) : Option String := (split bytes).mapM id |>.map String.ofList

/-- The text that the bytes spell, with `U+FFFD` for each ill-formed run. -/
def decodeLossy (bytes : List UInt8) : String :=
  String.ofList ((split bytes).map (·.getD '\uFFFD'))

theorem mapM_id_eq_some_iff {α : Type} {xs : List (Option α)} {ys : List α} :
    xs.mapM id = some ys ↔ xs = ys.map some := by
  induction xs generalizing ys with
  | nil => cases ys <;> simp
  | cons x xs ih =>
    cases x with
    | none => cases ys <;> simp
    | some x =>
      cases ys with
      | nil => simp [Option.bind_eq_some_iff]
      | cons y ys =>
        simp only [List.mapM_cons, id, Option.bind_eq_bind, Option.bind_some, Option.bind_eq_some_iff,
          ih, List.map_cons, List.cons.injEq, Option.some.injEq, Option.pure_def]
        constructor
        · rintro ⟨zs, hz, rfl, rfl⟩
          exact ⟨rfl, hz⟩
        · rintro ⟨rfl, hx⟩
          exact ⟨ys, hx, rfl, rfl⟩

/-- Strict decoding gives `s` exactly when the bytes split into the characters of `s`. -/
theorem decode?_eq_some_iff_split {bytes : List UInt8} {s : String} :
    decode? bytes = some s ↔ split bytes = s.toList.map some := by
  simp only [decode?, Option.map_eq_some_iff, mapM_id_eq_some_iff]
  constructor
  · rintro ⟨cs, h, rfl⟩
    simpa using h
  · intro h
    exact ⟨s.toList, h, String.ofList_toList⟩

/-- Lossy decoding changes nothing in well-formed bytes. -/
theorem decodeLossy_of_decode? {bytes : List UInt8} {s : String} (h : decode? bytes = some s) :
    decodeLossy bytes = s := by
  rw [decode?_eq_some_iff_split] at h
  simp [decodeLossy, h, Function.comp_def]

end VendorBuild.Utf8
