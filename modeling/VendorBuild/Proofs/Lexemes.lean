import VendorBuild.Source.Lexeme
import Mathlib.Tactic.SplitIfs

/-!
# Which lexemes are read

There is one rule for each kind of lexeme, and at most one rule applies at a place: the first
character decides, for a slash together with the second.

Results:
* `Lexeme.read_eq_ok_iff`: the rules by which lexemes are read.
* `Lexeme.eq_newline_of_getLast?`: a line break at the end of a lexeme is all of it.
-/

namespace VendorBuild

open Text

/-! ## Classes of characters -/

theorem isNameStart_eq_false_of_isBlank {c : Char} (h : isBlank c = true) :
    isNameStart c = false := by
  have hranges : ∀ r ∈ blankRanges, ∀ i < r.2 + 1 - r.1,
      alphabeticRanges.contains (r.1 + i) = false ∧ r.1 + i ≠ '_'.toNat := by
    decide +kernel
  obtain ⟨r, hr, hle, hge⟩ := CodeRanges.contains_of_mem h
  obtain ⟨halpha, hne⟩ := hranges r hr (c.toNat - r.1) (by omega)
  rw [show r.1 + (c.toNat - r.1) = c.toNat by omega] at halpha hne
  have hunderscore : c ≠ '_' := fun hc => hne (hc ▸ rfl)
  rw [isNameStart, isAlphabetic, halpha, decide_eq_false hunderscore, Bool.false_or]

/-- The characters that start other lexemes start no name. -/
theorem ne_of_isNameStart {c : Char} (h : isNameStart c = true) :
    c ≠ '\n' ∧ isBlank c = false ∧ c ≠ '/' ∧ c ≠ '"' ∧ c ≠ '`' := by
  have hmarks : isNameStart '\n' = false ∧ isNameStart '/' = false ∧ isNameStart '"' = false ∧
      isNameStart '`' = false := by
    decide
  have hne : ∀ d, isNameStart d = false → c ≠ d := by
    rintro d hd rfl
    rw [hd] at h
    cases h
  refine ⟨hne _ hmarks.1, ?_, hne _ hmarks.2.1, hne _ hmarks.2.2.1, hne _ hmarks.2.2.2⟩
  refine eq_false_of_ne_true fun hblank => ?_
  rw [isNameStart_eq_false_of_isBlank hblank] at h
  cases h

theorem isNamePart_newline : isNamePart '\n' = false := by
  decide

namespace Lexeme

/-! ## The rules -/

/-- The rules: which lexeme is at the front of a source that starts with a character, and what is
left behind it. -/
inductive IsRead : Char → List Char → Lexeme → List Char → Prop
  | newline {rest : List Char} : IsRead '\n' rest newline rest
  | blank {c : Char} {rest : List Char} (hc : c ≠ '\n') (hblank : isBlank c = true) :
      IsRead c rest (blank c) rest
  | lineComment {rest : List Char} :
      IsRead '/' ('/' :: rest) (lineComment (rest.takeWhile (· ≠ '\n'))) (rest.dropWhile (· ≠ '\n'))
  | blockComment {rest body left : List Char} (hsplit : splitComment rest = some (body, left)) :
      IsRead '/' ('*' :: rest) (blockComment body) left
  | quotedLiteral {rest body left : List Char} (hsplit : splitQuoted rest = some (body, left)) :
      IsRead '"' rest (quotedLiteral body) left
  | rawLiteral {rest body left : List Char} (hsplit : splitRaw rest = some (body, left)) :
      IsRead '`' rest (rawLiteral body) left
  | name {c : Char} {rest : List Char} (hstart : isNameStart c = true) :
      IsRead c rest (name (c :: rest.takeWhile isNamePart)) (rest.dropWhile isNamePart)
  | mark {c : Char} {rest : List Char} (hline : c ≠ '\n') (hblank : isBlank c = false)
      (hslash : c = '/' → rest.head? ≠ some '/' ∧ rest.head? ≠ some '*') (hquote : c ≠ '"')
      (hback : c ≠ '`') (hstart : isNameStart c = false) : IsRead c rest (mark c) rest

theorem isRead_of_read {c : Char} {rest left : List Char} {l : Lexeme}
    (h : read c rest = .ok (l, left)) : IsRead c rest l left := by
  unfold read at h
  split_ifs at h with hline hblank hslash hstar hquote hback hstart
  · cases h
    exact hline ▸ .newline
  · cases h
    exact .blank hline hblank
  · cases h
    obtain ⟨rfl, hhead⟩ := hslash
    rw [eq_cons_of_head? hhead]
    exact .lineComment
  · obtain ⟨rfl, hhead⟩ := hstar
    rw [eq_cons_of_head? hhead]
    split at h
    · rename_i hsplit
      cases h
      exact .blockComment hsplit
    · cases h
  · split at h
    · rename_i hsplit
      cases h
      exact hquote ▸ .quotedLiteral hsplit
    · cases h
  · split at h
    · rename_i hsplit
      cases h
      exact hback ▸ .rawLiteral hsplit
    · cases h
  · cases h
    exact .name hstart
  · cases h
    refine .mark hline (eq_false_of_ne_true hblank) (fun hc => ?_) hquote hback
      (eq_false_of_ne_true hstart)
    exact ⟨fun hhead => hslash ⟨hc, hhead⟩, fun hhead => hstar ⟨hc, hhead⟩⟩

theorem read_of_isRead {c : Char} {rest left : List Char} {l : Lexeme} (h : IsRead c rest l left) :
    read c rest = .ok (l, left) := by
  cases h with
  | newline => rfl
  | blank hc hblank => rw [read, if_neg hc, if_pos hblank]
  | lineComment => rfl
  | blockComment hsplit => simp [read, hsplit, show isBlank '/' = false from rfl]
  | quotedLiteral hsplit => simp [read, hsplit, show isBlank '"' = false from rfl]
  | rawLiteral hsplit => simp [read, hsplit, show isBlank '`' = false from rfl]
  | name hstart =>
    obtain ⟨hline, hblank, hslash, hquote, hback⟩ := ne_of_isNameStart hstart
    simp [read, hline, hblank, hslash, hquote, hback, hstart]
  | mark hline hblank hslash hquote hback hstart =>
    have hno : ¬ (c = '/' ∧ rest.head? = some '/') := fun hc => (hslash hc.1).1 hc.2
    have hstar : ¬ (c = '/' ∧ rest.head? = some '*') := fun hc => (hslash hc.1).2 hc.2
    simp [read, hline, hblank, hno, hstar, hquote, hback, hstart]

/-- The rules by which lexemes are read. -/
theorem read_eq_ok_iff {c : Char} {rest left : List Char} {l : Lexeme} :
    read c rest = .ok (l, left) ↔ IsRead c rest l left :=
  ⟨isRead_of_read, read_of_isRead⟩

theorem eq_newline_of_getLast? {c : Char} {rest left : List Char} {l : Lexeme}
    (h : read c rest = .ok (l, left)) (hlast : l.text.getLast? = some '\n') : l = newline := by
  have hmem : '\n' ∈ l.text := List.mem_of_getLast? hlast
  cases read_eq_ok_iff.1 h with
  | newline => rfl
  | blank hc => exact absurd (List.mem_singleton.1 hmem).symm hc
  | @lineComment rest =>
    have hbody : '\n' ∈ rest.takeWhile (· ≠ '\n') := by simpa [text] using hmem
    have hne := List.all_eq_true.1 List.all_takeWhile _ hbody
    exact absurd hne (by decide)
  | @blockComment rest body =>
    rw [show (blockComment body).text = '/' :: '*' :: (body ++ ['*']) ++ ['/'] by simp [text],
      List.getLast?_concat] at hlast
    exact absurd hlast (by decide)
  | @quotedLiteral rest body =>
    rw [show (quotedLiteral body).text = '"' :: body ++ ['"'] by simp [text],
      List.getLast?_concat] at hlast
    exact absurd hlast (by decide)
  | @rawLiteral rest body =>
    rw [show (rawLiteral body).text = '`' :: body ++ ['`'] by simp [text],
      List.getLast?_concat] at hlast
    exact absurd hlast (by decide)
  | name hstart =>
    rcases List.mem_cons.1 hmem with rfl | hmem
    · exact absurd rfl (ne_of_isNameStart hstart).1
    · have hpart := List.all_eq_true.1 List.all_takeWhile _ hmem
      rw [isNamePart_newline] at hpart
      cases hpart
  | mark hline => exact absurd (List.mem_singleton.1 hmem).symm hline

end Lexeme

end VendorBuild
