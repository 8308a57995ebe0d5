import VendorBuild.Proofs.Lexemes
import VendorBuild.Proofs.Literals
import Mathlib.Data.List.Chain

/-!
# How lexemes are spelled

Whether a text is a lexeme of its kind can be told from the text alone. Where it stands in a source
matters only for its end: a name, a comment on one line and a slash go on with some characters, so
they are lexemes in front of others only. A text that is spelled like a lexeme and ends where it
must is read as that lexeme, and what cannot be read is a construct whose closing mark is missing.

Results:
* `splitComment_eq_some_iff`, `splitQuoted_eq_some_iff`, `splitRaw_eq_some_iff`: what is cut off in
  front of a closing mark.
* `Lexeme.read_eq_ok_iff_isSpelled`: which texts are read as a lexeme, and in front of what.
* `Lexeme.read_append`: a lexeme with something left behind it is the same in a longer source.
* `Lexeme.read_eq_error_iff`: what cannot be read.
* `Lexeme.AreRead.flatMap_text_append`: the lexemes of a text make up the text.
-/

namespace VendorBuild

open Text

/-! ## Bodies and their closing marks -/

/-- What a comment between delimiters can hold: no slash directly behind a star. -/
def IsCommentBody (body : List Char) : Prop := body.IsChain fun c d => c = '*' → d ≠ '/'

/-- What a literal between double quotes can hold: plain characters, and behind a backslash any
character of the line. -/
inductive IsQuotedBody : List Char → Prop
  | nil : IsQuotedBody []
  | plain {c : Char} {rest : List Char} (hc : Literal.IsPlain c) (hrest : IsQuotedBody rest) :
      IsQuotedBody (c :: rest)
  | escaped {c : Char} {rest : List Char} (hc : c ≠ '\n') (hrest : IsQuotedBody rest) :
      IsQuotedBody ('\\' :: c :: rest)

/-- A comment is cut at the first star with a slash behind it. -/
theorem splitComment_eq_some_iff {text body left : List Char} :
    splitComment text = some (body, left) ↔
      IsCommentBody body ∧ text = body ++ '*' :: '/' :: left := by
  constructor
  · intro h
    refine ⟨?_, (Lexeme.append_of_splitComment h).symm⟩
    fun_induction splitComment text generalizing body left with
    | case1 => cases h
    | case2 rest =>
      cases h
      exact .nil
    | case3 c rest hne ih =>
      obtain ⟨⟨body', left'⟩, h', he⟩ := Option.map_eq_some_iff.1 h
      cases he
      refine List.isChain_cons.2 ⟨fun d hd hc => ?_, ih h'⟩
      rintro rfl
      obtain ⟨more, rfl⟩ := List.head?_eq_some_iff.1 hd
      exact hne _ hc (Lexeme.append_of_splitComment h').symm
  · rintro ⟨hbody, rfl⟩
    induction body with
    | nil => rfl
    | cons c body ih =>
      obtain ⟨hc, hbody⟩ := List.isChain_cons.1 hbody
      rw [List.cons_append, splitComment, ih hbody]
      · rfl
      · intro rest hstar hslash
        cases body with
        | nil => cases hslash
        | cons d body =>
          obtain ⟨rfl, -⟩ := List.cons.inj hslash
          exact hc '/' rfl hstar rfl

/-- Two lines of text do not make one literal between double quotes. -/
theorem IsQuotedBody.newline_notMem {body : List Char} (h : IsQuotedBody body) : '\n' ∉ body := by
  induction h with
  | nil => exact List.not_mem_nil
  | plain hc _ ih => exact List.not_mem_cons_of_ne_of_not_mem hc.2.2.symm ih
  | escaped hc _ ih =>
    exact List.not_mem_cons_of_ne_of_not_mem (by decide)
      (List.not_mem_cons_of_ne_of_not_mem hc.symm ih)

/-- A quoted literal is cut at the first quote that no backslash precedes, on the line where it
starts. -/
theorem splitQuoted_eq_some_iff {text body left : List Char} :
    splitQuoted text = some (body, left) ↔ IsQuotedBody body ∧ text = body ++ '"' :: left := by
  constructor
  · intro h
    refine ⟨?_, (Lexeme.append_of_splitQuoted h).symm⟩
    fun_induction splitQuoted text generalizing body left with
    | case1 => cases h
    | case2 rest =>
      cases h
      exact .nil
    | case3 => cases h
    | case4 => cases h
    | case5 c rest hc ih =>
      obtain ⟨⟨body', left'⟩, h', he⟩ := Option.map_eq_some_iff.1 h
      cases he
      exact .escaped hc (ih h')
    | case6 c rest hquote hline hescape ih =>
      obtain ⟨⟨body', left'⟩, h', he⟩ := Option.map_eq_some_iff.1 h
      cases he
      refine .plain ⟨hquote, ?_, hline⟩ (ih h')
      rintro rfl
      cases rest with
      | nil => cases h'
      | cons d rest => exact hescape d rest rfl rfl
  · rintro ⟨hbody, rfl⟩
    induction hbody with
    | nil => rfl
    | plain hc _ ih =>
      rw [List.cons_append, splitQuoted, ih]
      · rfl
      · exact hc.1
      · exact hc.2.2
      · intro d rest hbackslash
        exact absurd hbackslash hc.2.1
    | escaped hc _ ih =>
      rw [List.cons_append, List.cons_append, splitQuoted, if_neg hc, ih]
      rfl

theorem takeWhile_append_of_head? {p : Char → Bool} {body left : List Char}
    (hbody : ∀ c ∈ body, p c = true) (hleft : ∀ d ∈ left.head?, p d = false) :
    (body ++ left).takeWhile p = body ∧ (body ++ left).dropWhile p = left := by
  rw [List.takeWhile_append_of_pos hbody, List.dropWhile_append_of_pos hbody]
  cases left with
  | nil => simp
  | cons d left => simp [hleft d rfl]

theorem splitRaw_eq_some_iff {text body left : List Char} :
    splitRaw text = some (body, left) ↔ '`' ∉ body ∧ text = body ++ '`' :: left := by
  constructor
  · intro h
    refine ⟨fun hmem => ?_, (Lexeme.append_of_splitRaw h).symm⟩
    unfold splitRaw at h
    split at h
    · cases h
    · cases h
      exact absurd (List.all_eq_true.1 List.all_takeWhile _ hmem) (by decide)
  · rintro ⟨hbody, rfl⟩
    obtain ⟨htake, hdrop⟩ := @takeWhile_append_of_head? (· ≠ '`') body ('`' :: left)
      (fun c hc => decide_eq_true (ne_of_mem_of_not_mem hc hbody)) (by simp)
    rw [splitRaw, htake, hdrop]

namespace Lexeme

/-! ## Texts that are lexemes -/

/-- Whether the text of a lexeme is spelled as its kind is. -/
inductive IsSpelled : Lexeme → Prop
  | newline : IsSpelled newline
  | blank {c : Char} (hc : c ≠ '\n') (hblank : isBlank c = true) : IsSpelled (blank c)
  | lineComment {body : List Char} (hbody : '\n' ∉ body) : IsSpelled (lineComment body)
  | blockComment {body : List Char} (hbody : IsCommentBody body) : IsSpelled (blockComment body)
  | name {c : Char} {rest : List Char} (hstart : isNameStart c = true)
      (hrest : ∀ d ∈ rest, isNamePart d = true) : IsSpelled (name (c :: rest))
  | quotedLiteral {body : List Char} (hbody : IsQuotedBody body) : IsSpelled (quotedLiteral body)
  | rawLiteral {body : List Char} (hbody : '`' ∉ body) : IsSpelled (rawLiteral body)
  | mark {c : Char} (hline : c ≠ '\n') (hblank : isBlank c = false) (hquote : c ≠ '"')
      (hback : c ≠ '`') (hstart : isNameStart c = false) : IsSpelled (mark c)

/-- Whether a lexeme can end in front of a character, or of the end of the source. -/
def EndsBefore : Lexeme → Option Char → Prop
  | lineComment _, next => ∀ d ∈ next, d = '\n'
  | name _, next => ∀ d ∈ next, isNamePart d = false
  | mark c, next => c = '/' → ∀ d ∈ next, d ≠ '/' ∧ d ≠ '*'
  | _, _ => True

theorem IsRead.isSpelled {c : Char} {rest left : List Char} {l : Lexeme}
    (h : IsRead c rest l left) : l.IsSpelled := by
  cases h with
  | newline => exact .newline
  | blank hc hblank => exact .blank hc hblank
  | lineComment =>
    exact .lineComment fun hmem =>
      absurd (List.all_eq_true.1 List.all_takeWhile _ hmem) (by decide)
  | blockComment hsplit => exact .blockComment (splitComment_eq_some_iff.1 hsplit).1
  | quotedLiteral hsplit => exact .quotedLiteral (splitQuoted_eq_some_iff.1 hsplit).1
  | rawLiteral hsplit => exact .rawLiteral (splitRaw_eq_some_iff.1 hsplit).1
  | name hstart => exact .name hstart fun d hd => List.all_eq_true.1 List.all_takeWhile d hd
  | mark hline hblank _ hquote hback hstart => exact .mark hline hblank hquote hback hstart

theorem IsRead.endsBefore {c : Char} {rest left : List Char} {l : Lexeme}
    (h : IsRead c rest l left) : l.EndsBefore left.head? := by
  cases h with
  | @lineComment rest =>
    intro d hd
    have hstop := List.head?_dropWhile_not (· ≠ '\n') rest
    rw [hd] at hstop
    simpa using hstop
  | @name c rest hstart =>
    intro d hd
    have hstop := List.head?_dropWhile_not isNamePart rest
    rw [hd] at hstop
    simpa using hstop
  | mark hline hblank hslash =>
    intro hc d hd
    obtain ⟨hslash, hstar⟩ := hslash hc
    rw [hd] at hslash hstar
    exact ⟨fun he => hslash (he ▸ rfl), fun he => hstar (he ▸ rfl)⟩
  | _ => trivial

/-- A lexeme is read from its text if it can end where the text does. -/
theorem isRead_of_isSpelled {c : Char} {rest left : List Char} {l : Lexeme} (h : l.IsSpelled)
    (hend : l.EndsBefore left.head?) (htext : l.text ++ left = c :: rest) :
    IsRead c rest l left := by
  cases h with
  | newline =>
    obtain ⟨rfl, rfl⟩ := List.cons.inj htext
    exact .newline
  | blank hc hblank =>
    obtain ⟨rfl, rfl⟩ := List.cons.inj htext
    exact .blank hc hblank
  | @lineComment body hbody =>
    obtain ⟨rfl, rfl⟩ := List.cons.inj htext
    obtain ⟨htake, hdrop⟩ := @takeWhile_append_of_head? (· ≠ '\n') body left
      (fun c hc => decide_eq_true (ne_of_mem_of_not_mem hc hbody)) (fun d hd => by simp [hend d hd])
    have hread := @IsRead.lineComment (body ++ left)
    rwa [htake, hdrop] at hread
  | @blockComment body hbody =>
    obtain ⟨rfl, rfl⟩ := List.cons.inj htext
    exact .blockComment (splitComment_eq_some_iff.2 ⟨hbody, List.append_assoc body ['*', '/'] left⟩)
  | @quotedLiteral body hbody =>
    obtain ⟨rfl, rfl⟩ := List.cons.inj htext
    exact .quotedLiteral (splitQuoted_eq_some_iff.2 ⟨hbody, List.append_assoc body ['"'] left⟩)
  | @rawLiteral body hbody =>
    obtain ⟨rfl, rfl⟩ := List.cons.inj htext
    exact .rawLiteral (splitRaw_eq_some_iff.2 ⟨hbody, List.append_assoc body ['`'] left⟩)
  | @name first body hstart hbody =>
    obtain ⟨rfl, rfl⟩ := List.cons.inj htext
    obtain ⟨htake, hdrop⟩ := takeWhile_append_of_head? hbody hend
    have hread := @IsRead.name first (body ++ left) hstart
    rwa [htake, hdrop] at hread
  | mark hline hblank hquote hback hstart =>
    obtain ⟨rfl, rfl⟩ := List.cons.inj htext
    refine .mark hline hblank (fun hc => ⟨fun he => ?_, fun he => ?_⟩) hquote hback hstart
    · exact (hend hc _ he).1 rfl
    · exact (hend hc _ he).2 rfl

theorem IsSpelled.text_ne_nil {l : Lexeme} (h : l.IsSpelled) : l.text ≠ [] := by
  cases h <;> simp [text]

/-- A lexeme is read exactly where its text stands in front of something it can end before. -/
theorem read_eq_ok_iff_isSpelled {c : Char} {rest left : List Char} {l : Lexeme} :
    read c rest = .ok (l, left) ↔
      l.IsSpelled ∧ l.EndsBefore left.head? ∧ l.text ++ left = c :: rest := by
  rw [read_eq_ok_iff]
  constructor
  · intro h
    exact ⟨h.isSpelled, h.endsBefore, text_append_of_read (read_of_isRead h)⟩
  · rintro ⟨hspelled, hend, htext⟩
    exact isRead_of_isSpelled hspelled hend htext

theorem IsSpelled.exists_read {l : Lexeme} {left : List Char} (h : l.IsSpelled)
    (hend : l.EndsBefore left.head?) :
    ∃ c rest, l.text ++ left = c :: rest ∧ read c rest = .ok (l, left) := by
  obtain ⟨c, cs, htext⟩ := List.exists_cons_of_ne_nil h.text_ne_nil
  have happend : l.text ++ left = c :: (cs ++ left) := by rw [htext, List.cons_append]
  exact ⟨c, cs ++ left, happend, read_eq_ok_iff_isSpelled.2 ⟨h, hend, happend⟩⟩

/-- A lexeme is the same in a longer source if something is left behind it. The end of a line is a
lexeme in any case. -/
theorem read_append {c : Char} {rest left : List Char} {l : Lexeme} (more : List Char)
    (h : read c rest = .ok (l, left)) (hl : left ≠ [] ∨ l = newline) :
    read c (rest ++ more) = .ok (l, left ++ more) := by
  obtain ⟨hspelled, hend, htext⟩ := read_eq_ok_iff_isSpelled.1 h
  refine read_eq_ok_iff_isSpelled.2 ⟨hspelled, ?_, ?_⟩
  · obtain hleft | rfl := hl
    · rwa [List.head?_append_of_ne_nil _ hleft]
    · trivial
  · rw [← List.append_assoc, htext, List.cons_append]

/-! ## The lines in lexemes -/

theorem lineBreaks_newline : newline.lineBreaks = 1 := rfl

theorem lineBreaks_lineComment {body : List Char} (h : '\n' ∉ body) :
    (lineComment body).lineBreaks = 0 := List.count_eq_zero.2 (by simpa [text] using h)

theorem lineBreaks_blockComment (body : List Char) :
    (blockComment body).lineBreaks = body.count '\n' := by
  simp [lineBreaks, text]

/-! ## Texts that are cut off -/

/-- Where a construct starts whose closing mark is missing. -/
inductive IsCutOff : Char → List Char → Unclosed → Prop
  | comment {rest : List Char} (h : splitComment rest = none) : IsCutOff '/' ('*' :: rest) .comment
  | quotedLiteral {rest : List Char} (h : splitQuoted rest = none) :
      IsCutOff '"' rest .quotedLiteral
  | rawLiteral {rest : List Char} (h : splitRaw rest = none) : IsCutOff '`' rest .rawLiteral

/-- What cannot be read is a construct whose closing mark is missing. -/
theorem read_eq_error_iff {c : Char} {rest : List Char} {what : Unclosed} :
    read c rest = .error what ↔ IsCutOff c rest what := by
  constructor
  · intro h
    unfold read at h
    split_ifs at h with hline hblank hslash hstar hquote hback hstart
    · obtain ⟨rfl, hhead⟩ := hstar
      rw [eq_cons_of_head? hhead]
      split at h
      · cases h
      · rename_i hsplit
        cases h
        exact .comment hsplit
    · split at h
      · cases h
      · rename_i hsplit
        cases h
        exact hquote ▸ .quotedLiteral hsplit
    · split at h
      · cases h
      · rename_i hsplit
        cases h
        exact hback ▸ .rawLiteral hsplit
  · intro h
    cases h with
    | comment hsplit => simp [read, hsplit, show isBlank '/' = false from rfl]
    | quotedLiteral hsplit => simp [read, hsplit, show isBlank '"' = false from rfl]
    | rawLiteral hsplit => simp [read, hsplit, show isBlank '`' = false from rfl]

/-! ## Lexemes one after the other -/

/-- The lexemes that are read one after the other from a text, up to a place in it. -/
inductive AreRead : List Char → List Lexeme → List Char → Prop
  | nil {text : List Char} : AreRead text [] text
  | cons {c : Char} {rest left place : List Char} {l : Lexeme} {ls : List Lexeme}
      (h : read c rest = .ok (l, left)) (hrest : AreRead left ls place) :
      AreRead (c :: rest) (l :: ls) place

theorem AreRead.flatMap_text_append {text place : List Char} {ls : List Lexeme}
    (h : AreRead text ls place) : ls.flatMap Lexeme.text ++ place = text := by
  induction h with
  | nil => rfl
  | cons hread _ ih => rw [List.flatMap_cons, List.append_assoc, ih, text_append_of_read hread]

theorem AreRead.exists_read {text place : List Char} {before : List Lexeme} {l : Lexeme}
    (h : AreRead text (before ++ [l]) place) : ∃ c rest, read c rest = .ok (l, place) := by
  induction before generalizing text with
  | nil =>
    cases h with
    | cons hread hrest =>
      cases hrest
      exact ⟨_, _, hread⟩
  | cons k before ih =>
    cases h with
    | cons _ hrest => exact ih hrest

end Lexeme

end VendorBuild
