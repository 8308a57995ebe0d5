import VendorBuild.Proofs.Boundaries
import VendorBuild.Proofs.Grammar
import VendorBuild.Proofs.Positions

/-!
# What headers are decoded from

The bytes of a source need not be text: those that are not are decoded as replacement characters. Of
what is read for a header only comments can hold such a character. It is neither white space nor
part of a name, as a token of its own it is refused, and in a literal, however the characters around
it are escaped, it is in the import path, which may not hold it. So whatever is read outside
comments, the package name and the literals of the imports among it, stands in the bytes as it is.

Results:
* `Literal.mem_of_spells`: a character beyond ASCII is in the value of the body that holds it.
* `Grammar.declares_of_isHeader`: which tokens make up a header.
* `Header.exists_stopsBehind`: where the reading of a header stops.
* `Lexeme.replacement_notMem`: only comments can hold the replacement character.
* `Header.ofSource_decodeLossy_verbatim`: what a header is decoded from.
-/

namespace VendorBuild

open Text

/-! ## Characters in literals -/

namespace Literal

/-- An escape holds ASCII characters only. -/
theorem IsEscape.lt_of_mem {cs : List Char} {bytes : List UInt8} {c : Char} (h : IsEscape cs bytes)
    (hc : c ∈ cs) : c.toNat < 0x80 := by
  have hdigits {base n : Nat} {digits : List Char} (hnum : IsNumeral base digits n)
      (hmem : c ∈ digits) : c.toNat < 0x80 := by
    have hall : ("0123456789abcdef".toList.take 16 ++ "0123456789ABCDEF".toList.take 16).all
        (fun c => decide (c.toNat < 0x80)) = true := by
      decide
    obtain ⟨d, -, hdigit⟩ := hnum.exists_showsDigit hmem
    exact of_decide_eq_true (List.all_eq_true.1 hall c (hdigit.mem_take hdigit.lt))
  cases h with
  | short hname =>
    have hall : shortEscapes.all (fun e => decide (e.1.toNat < 0x80)) = true := by decide
    rw [List.mem_singleton.1 hc]
    exact of_decide_eq_true (List.all_eq_true.1 hall _ hname)
  | octal _ hnum => exact hdigits hnum hc
  | byte _ hnum | codePoint _ hnum | longCodePoint _ hnum =>
    obtain rfl | hc := List.mem_cons.1 hc
    · decide
    · exact hdigits hnum hc

/-- A character beyond ASCII gives its bytes wherever it stands in a body. -/
theorem Spells.exists_append {body : List Char} {bytes : List UInt8} {c : Char}
    (h : Spells body bytes) (hc : c ∈ body) (hascii : 0x80 ≤ c.toNat) :
    ∃ front back, bytes = front ++ String.utf8EncodeChar c ++ back := by
  induction h with
  | nil => cases hc
  | @cons item rest bytes more hitem _ ih =>
    obtain hc | hc := List.mem_append.1 hc
    · cases hitem with
      | plain =>
        rw [List.mem_singleton.1 hc]
        exact ⟨[], more, rfl⟩
      | escape hescape =>
        obtain rfl | hc := List.mem_cons.1 hc
        · exact absurd hascii (by decide)
        · exact absurd (hescape.lt_of_mem hc) (Nat.not_lt.2 hascii)
    · obtain ⟨front, back, rfl⟩ := ih hc
      exact ⟨bytes ++ front, back, by simp only [List.append_assoc]⟩

/-- A character beyond ASCII is in the value of the body that holds it, even if the bytes that are
escaped around it combine with one another. -/
theorem mem_of_spells {body : List Char} {v : String} {c : Char} (h : Spells body (Utf8.encode v))
    (hc : c ∈ body) (hascii : 0x80 ≤ c.toNat) : c ∈ v.toList := by
  obtain ⟨front, back, hbytes⟩ := h.exists_append hc hascii
  exact Utf8.mem_of_encode_eq_append hbytes

end Literal

/-! ## The tokens of a header -/

/-- The text of a name token. -/
def TokenKind.word? : TokenKind → Option String
  | name text => some text
  | _ => none

/-- The text of a literal token. -/
def TokenKind.literal? : TokenKind → Option String
  | literal text => some text
  | _ => none

theorem TokenKind.word?_ofMark (c : Char) : (ofMark c).word? = none := by
  unfold ofMark
  split_ifs <;> rfl

theorem TokenKind.literal?_ofMark (c : Char) : (ofMark c).literal? = none := by
  unfold ofMark
  split_ifs <;> rfl

namespace Grammar

/-- Whether the literals among some tokens are those of imports with the given paths, and each mark
among them is one that a header can hold. -/
structure Declares (tokens : List TokenKind) (paths : List String) : Prop where
  literals : (tokens.filterMap TokenKind.literal?).map ImportPath.ofLiteral = paths.map .ok
  marks : ∀ c, TokenKind.other c ∉ tokens

variable {tokens more : List TokenKind} {path : String} {paths others : List String}
  {stop : Option TokenKind} {header : Header}

theorem Declares.append (h : Declares tokens paths) (h' : Declares more others) :
    Declares (tokens ++ more) (paths ++ others) where
  literals := by
    rw [List.filterMap_append, List.map_append, h.literals, h'.literals, List.map_append]
  marks c hc := (List.mem_append.1 hc).elim (h.marks c) (h'.marks c)

theorem declares_nil (h : ∀ k ∈ tokens, k.literal? = none ∧ ∀ c, k ≠ .other c) :
    Declares tokens [] where
  literals := by
    rw [List.filterMap_eq_nil_iff.2 fun k hk => (h k hk).1]
    rfl
  marks c hc := (h _ hc).2 c rfl

theorem declares_separators (h : ∀ k ∈ tokens, IsSeparator k) : Declares tokens [] := by
  refine declares_nil fun k hk => ?_
  obtain rfl | rfl := h k hk <;> exact ⟨rfl, by simp⟩

theorem declares_breaks (h : ∀ k ∈ tokens, k = .newline) : Declares tokens [] :=
  declares_separators fun k hk => .inl (h k hk)

theorem declares_of_import (h : Import tokens path) : Declares tokens [path] := by
  cases h with
  | @intro given literal path hgiven hpath =>
    have hfront : Declares given [] := by
      cases hgiven <;> exact declares_nil (by simp [TokenKind.literal?])
    refine hfront.append ⟨?_, by simp⟩
    exact congrArg (· :: []) hpath

theorem declares_of_groupTail (h : GroupTail tokens paths) : Declares tokens paths := by
  induction h with
  | nil hseps => exact declares_separators hseps
  | cons hseps _ hbody _ ih =>
    exact ((declares_separators hseps).append (declares_of_import hbody)).append ih

theorem declares_of_group (h : Group tokens paths) : Declares tokens paths := by
  cases h with
  | nil hseps => exact declares_separators hseps
  | cons hseps hbody hrest =>
    exact ((declares_separators hseps).append (declares_of_import hbody)).append
      (declares_of_groupTail hrest)

theorem declares_of_declaration (h : Declaration tokens paths) : Declares tokens paths := by
  have hkeyword : Declares [.name "import"] [] := declares_nil (by simp [TokenKind.literal?])
  cases h with
  | single hbreaks hbody =>
    exact hkeyword.append ((declares_breaks hbreaks).append (declares_of_import hbody))
  | group hbreaks hbody =>
    have hleft : Declares [.leftParen] [] := declares_nil (by simp [TokenKind.literal?])
    have hright : Declares [.rightParen] [] := declares_nil (by simp [TokenKind.literal?])
    have hgroup := hleft.append ((declares_of_group hbody).append hright)
    rw [List.append_nil] at hgroup
    exact hkeyword.append ((declares_breaks hbreaks).append hgroup)

theorem declares_of_terminator (h : Terminator tokens more stop) : Declares tokens [] := by
  cases h with
  | separator hk => exact declares_separators (by simpa using hk)
  | endOfSource => exact declares_nil (by simp)

theorem declares_of_declarations (h : Declarations stop tokens paths) : Declares tokens paths := by
  induction h with
  | nil hseps => exact declares_separators hseps
  | cons hseps hbody hterm _ ih =>
    have hfront := (declares_separators hseps).append (declares_of_declaration hbody)
    have hline := hfront.append (declares_of_terminator hterm)
    rw [List.nil_append, List.append_nil] at hline
    exact hline.append ih

/-- The literals in a header are those of its imports, in their order, and of the words the first is
the keyword of the package clause and the second the name of the package. -/
theorem declares_of_isHeader (h : IsHeader stop tokens header) :
    Declares tokens header.imports ∧
      ∃ words, tokens.filterMap TokenKind.word? = "package" :: header.packageName :: words := by
  cases h with
  | @intro breaks term rest word paths hbreaks _ _ hterm hrest =>
    have hclause : Declares [.name "package", .name word] [] :=
      declares_nil (by simp [TokenKind.literal?])
    have hall := (((declares_breaks hbreaks).append hclause).append
      (declares_of_terminator hterm)).append (declares_of_declarations hrest)
    refine ⟨hall, (term ++ rest).filterMap TokenKind.word?, ?_⟩
    have hnone : breaks.filterMap TokenKind.word? = [] :=
      List.filterMap_eq_nil_iff.2 fun k hk => by rw [hbreaks k hk]; rfl
    simp only [List.filterMap_append, hnone, List.nil_append, List.append_assoc]
    rfl

end Grammar

/-! ## Where reading stops -/

/-- Whether a token, or the end of the source, is at the front of a text. -/
inductive StandsFirst : List Char → Option TokenKind → Prop
  | finish : StandsFirst [] none
  | token {c : Char} {rest left : List Char} {l : Lexeme} {kind : TokenKind}
      (hread : Lexeme.read c rest = .ok (l, left)) (hkind : l.token? = some kind) :
      StandsFirst (c :: rest) (some kind)

namespace Header

/-- Whether the reading of a header passes over some lexemes at the front of a text and stops behind
them: the automaton moves over the tokens among them and finds the header complete in front of what
is left. -/
structure StopsBehind (s : Progress) (text : List Char) (ls : List Lexeme) (left : List Char)
    (header : Header) : Prop where
  reads : Lexeme.AreRead text ls left
  accepts : ∃ stop, StandsFirst left stop ∧ s.Accepts stop (ls.filterMap Lexeme.token?) header

theorem exists_stopsBehind {s : Progress} {line : Nat} {text : List Char} {header : Header}
    (h : read s ⟨line, text⟩ = .ok header) : ∃ ls left, StopsBehind s text ls left header := by
  induction hlength : text.length using Nat.strong_induction_on generalizing s line text with
  | _ n ih =>
    cases text with
    | nil =>
      rw [read_nil, finish] at h
      split at h
      · cases h
      · rename_i next hstep
        cases h
        have hnone : next = none :=
          Option.eq_none_iff_forall_ne_some.2 fun t ht => s.step_none t (ht ▸ hstep)
        exact ⟨[], [], .nil, none, .finish, .done (hnone ▸ hstep)⟩
    | cons c rest =>
      cases hread : Lexeme.read c rest with
      | error what =>
        rw [read_of_error hread] at h
        cases h
      | ok found =>
        obtain ⟨l, left⟩ := found
        have hshorter := hlength ▸ Lexeme.length_of_read hread
        rw [read_cons hread] at h
        cases hkind : l.token? with
        | none =>
          rw [hkind] at h
          obtain ⟨ls, place, hls, stop, hfirst, haccepts⟩ := ih _ hshorter h rfl
          refine ⟨l :: ls, place, .cons hread hls, stop, hfirst, ?_⟩
          rwa [List.filterMap_cons_none hkind]
        | some kind =>
          rw [hkind, pass] at h
          split at h
          · cases h
          · rename_i hstep
            cases h
            exact ⟨[], c :: rest, .nil, some kind, .token hread hkind, .done hstep⟩
          · rename_i s' hstep
            obtain ⟨ls, place, hls, stop, hfirst, haccepts⟩ := ih _ hshorter h rfl
            refine ⟨l :: ls, place, .cons hread hls, stop, hfirst, ?_⟩
            rw [List.filterMap_cons_some hkind]
            exact .move hstep haccepts

end Header

/-! ## Replacement characters -/

namespace Lexeme

/-- Whether a lexeme is a comment. -/
def isComment : Lexeme → Bool
  | lineComment _ | blockComment _ => true
  | _ => false

/-- Whether a lexeme is a name or keyword. -/
def isName : Lexeme → Bool
  | name _ => true
  | _ => false

/-- Whether a lexeme is a literal. -/
def isLiteral : Lexeme → Bool
  | quotedLiteral _ | rawLiteral _ => true
  | _ => false

/-- A character beyond ASCII is in the value of the literal that holds it. -/
theorem mem_of_isLiteral {l : Lexeme} {v : String} {c : Char} (hl : l.isLiteral = true)
    (hvalue : Literal.value (String.ofList l.text) = .ok v) (hc : c ∈ l.text)
    (hascii : 0x80 ≤ c.toNat) : c ∈ v.toList := by
  -- what is not ASCII is neither a quote nor a carriage return
  have hne {d : Char} (hd : d.toNat < 0x80) : c ≠ d := by
    rintro rfl
    exact absurd hascii (Nat.not_le.2 hd)
  cases l with
  | quotedLiteral body =>
    have htext : (String.ofList (quotedLiteral body).text).toList = '"' :: (body ++ ['"']) :=
      String.toList_ofList
    rw [Literal.value_of_quoted htext, Literal.quotedValue_eq_ok_iff] at hvalue
    have hbody : c ∈ body := by simpa [text, hne (d := '"') (by decide)] using hc
    exact Literal.mem_of_spells hvalue hbody hascii
  | rawLiteral body =>
    have htext : (String.ofList (rawLiteral body).text).toList = '`' :: (body ++ ['`']) :=
      String.toList_ofList
    rw [Literal.value_of_raw htext, Literal.rawValue_eq_ok_iff] at hvalue
    have hbody : c ∈ body := by simpa [text, hne (d := '`') (by decide)] using hc
    rw [hvalue.2]
    exact List.mem_filter.2 ⟨hbody, decide_eq_true (hne (by decide))⟩
  | _ => cases hl

/-- What is read for a header holds the replacement character only in comments. -/
theorem replacement_notMem {l : Lexeme} (hspelled : l.IsSpelled) (hcomment : l.isComment = false)
    (hmark : ∀ c, l.token? ≠ some (.other c))
    (hliteral : l.isLiteral = true →
      ∃ path, ImportPath.ofLiteral (String.ofList l.text) = .ok path) : '\uFFFD' ∉ l.text := by
  have hclasses : isBlank '\uFFFD' = false ∧ isNamePart '\uFFFD' = false ∧
      ImportPath.isIllegal '\uFFFD' = true := by
    decide +kernel
  intro hmem
  have hvalue (hl : l.isLiteral = true) : False := by
    obtain ⟨path, hpath⟩ := hliteral hl
    obtain ⟨hvalue, -, hlegal⟩ := ImportPath.ofLiteral_eq_ok_iff.1 hpath
    have hillegal := hlegal _ (mem_of_isLiteral hl hvalue hmem (by decide))
    rw [hclasses.2.2] at hillegal
    cases hillegal
  cases hspelled with
  | newline => simp [text] at hmem
  | blank _ hblank =>
    rw [← List.mem_singleton.1 hmem, hclasses.1] at hblank
    cases hblank
  | lineComment => cases hcomment
  | blockComment => cases hcomment
  | name hstart hrest =>
    have hpart : isNamePart '\uFFFD' = true := by
      obtain rfl | hmem := List.mem_cons.1 hmem
      · rw [isNamePart, hstart, Bool.true_or]
      · exact hrest _ hmem
    rw [hclasses.2.1] at hpart
    cases hpart
  | quotedLiteral => exact hvalue rfl
  | rawLiteral => exact hvalue rfl
  | mark =>
    apply hmark '\uFFFD'
    rw [← List.mem_singleton.1 hmem]
    rfl

theorem isComment_of_isName {l : Lexeme} (h : l.isName = true) : l.isComment = false := by
  cases l with
  | name => rfl
  | _ => cases h

theorem isComment_of_isLiteral {l : Lexeme} (h : l.isLiteral = true) : l.isComment = false := by
  cases l with
  | quotedLiteral => rfl
  | rawLiteral => rfl
  | _ => cases h

theorem filterMap_token? {kind? : TokenKind → Option String} {isKind : Lexeme → Bool}
    (h : ∀ l : Lexeme, l.token?.bind kind? = if isKind l then some (String.ofList l.text) else none)
    (ls : List Lexeme) :
    (ls.filterMap token?).filterMap kind? =
      (ls.filter isKind).map fun l => String.ofList l.text := by
  rw [List.filterMap_filterMap, List.filterMap_congr fun l _ => h l]
  induction ls with
  | nil => rfl
  | cons l ls ih =>
    by_cases hl : isKind l = true
    · rw [List.filterMap_cons, if_pos hl, List.filter_cons_of_pos hl, List.map_cons, ih]
    · rw [List.filterMap_cons, if_neg hl, List.filter_cons_of_neg hl, ih]

theorem filterMap_word? (ls : List Lexeme) :
    (ls.filterMap token?).filterMap TokenKind.word? =
      (ls.filter isName).map fun l => String.ofList l.text := by
  refine filterMap_token? (fun l => ?_) ls
  cases l with
  | blockComment body =>
    rw [token?]
    split <;> rfl
  | mark c => exact TokenKind.word?_ofMark c
  | _ => rfl

theorem filterMap_literal? (ls : List Lexeme) :
    (ls.filterMap token?).filterMap TokenKind.literal? =
      (ls.filter isLiteral).map fun l => String.ofList l.text := by
  refine filterMap_token? (fun l => ?_) ls
  cases l with
  | blockComment body =>
    rw [token?]
    split <;> rfl
  | mark c => exact TokenKind.literal?_ofMark c
  | _ => rfl

end Lexeme

/-! ## Lexemes and their bytes -/

/-- A lexeme and the bytes that it is decoded from. -/
structure Stretch where
  lexeme : Lexeme
  bytes : List UInt8

namespace Stretch

/-- Whether a lexeme is decoded from the bytes, and from its own bytes unless it is a comment. Its
text then is free of replacement characters. -/
structure IsVerbatim (p : Stretch) : Prop where
  decoded : Utf8.decodeLossy p.bytes = String.ofList p.lexeme.text
  clean : p.lexeme.isComment = false → '\uFFFD' ∉ p.lexeme.text
  verbatim : p.lexeme.isComment = false → p.bytes = Utf8.encode (String.ofList p.lexeme.text)

/-- A lexeme without replacement characters is decoded from its own bytes. -/
theorem IsVerbatim.of_clean {p : Stretch}
    (h : Utf8.decodeLossy p.bytes = String.ofList p.lexeme.text)
    (hclean : p.lexeme.isComment = false → '\uFFFD' ∉ p.lexeme.text) : p.IsVerbatim where
  decoded := h
  clean := hclean
  verbatim hcomment :=
    Utf8.eq_encode_of_decodeLossy h (by rw [String.toList_ofList]; exact hclean hcomment)

/-- Lexemes at the front of a decoded text are decoded from the bytes at the front. -/
theorem exists_of_decodeLossy {bytes : List UInt8} {ls : List Lexeme} {left : List Char}
    (h : (Utf8.decodeLossy bytes).toList = ls.flatMap Lexeme.text ++ left) :
    ∃ (stretches : List Stretch) (behind : List UInt8),
      stretches.map lexeme = ls ∧ bytes = stretches.flatMap Stretch.bytes ++ behind ∧
      (Utf8.decodeLossy behind).toList = left ∧
      ∀ p ∈ stretches, Utf8.decodeLossy p.bytes = String.ofList p.lexeme.text := by
  induction ls generalizing bytes with
  | nil => exact ⟨[], bytes, rfl, rfl, h, List.forall_mem_nil _⟩
  | cons l ls ih =>
    rw [List.flatMap_cons, List.append_assoc] at h
    obtain ⟨front, back, rfl, hfront, hback⟩ := Utf8.exists_append_of_decodeLossy h
    obtain ⟨stretches, behind, rfl, rfl, hleft, hdecoded⟩ := ih hback
    refine ⟨⟨l, front⟩ :: stretches, behind, rfl, ?_, hleft, List.forall_mem_cons.2 ⟨?_, hdecoded⟩⟩
    · rw [List.flatMap_cons, List.append_assoc]
    · rw [← hfront, String.ofList_toList]

theorem map_bytes {stretches : List Stretch} {isKind : Lexeme → Bool}
    (h : ∀ p ∈ stretches, p.IsVerbatim) (hkind : ∀ l, isKind l = true → l.isComment = false) :
    (stretches.filter (isKind ·.lexeme)).map Stretch.bytes =
      (((stretches.map lexeme).filter isKind).map fun l => String.ofList l.text).map
        Utf8.encode := by
  rw [List.filter_map, List.map_map, List.map_map]
  refine List.map_congr_left fun p hp => ?_
  obtain ⟨hmem, hp⟩ := List.mem_filter.1 hp
  exact (h p hmem).verbatim (hkind _ hp)

end Stretch

/-- The byte order mark in front of a decoded source is decoded from its own bytes. -/
theorem Cursor.exists_mark_of_decodeLossy (bytes : List UInt8) :
    ∃ mark rest, bytes = mark ++ rest ∧ (mark = [] ∨ mark = Utf8.encode "\uFEFF") ∧
      (ofSource (Utf8.decodeLossy bytes)).rest = (Utf8.decodeLossy rest).toList := by
  obtain hsource | ⟨hsource, -⟩ := toList_eq_ofSource (Utf8.decodeLossy bytes)
  · have hcut : (Utf8.decodeLossy bytes).toList =
        ['\uFEFF'] ++ (ofSource (Utf8.decodeLossy bytes)).rest := hsource
    obtain ⟨mark, rest, rfl, hmark, hrest⟩ := Utf8.exists_append_of_decodeLossy hcut
    have hdecoded : Utf8.decodeLossy mark = "\uFEFF" := String.toList_inj.1 hmark
    exact ⟨mark, rest, rfl, .inr (Utf8.eq_encode_of_decodeLossy hdecoded (by decide)), hrest.symm⟩
  · exact ⟨[], bytes, rfl, .inl rfl, hsource.symm⟩

namespace Header

namespace StopsBehind

variable {text left : List Char} {ls : List Lexeme} {l : Lexeme} {header : Header}

/-- The tokens among the lexemes that are read for a header make the header up. -/
theorem declares (h : StopsBehind .start text ls left header) :
    Grammar.Declares (ls.filterMap Lexeme.token?) header.imports ∧
      ∃ words, (ls.filterMap Lexeme.token?).filterMap TokenKind.word? =
        "package" :: header.packageName :: words := by
  obtain ⟨stop, -, haccepts⟩ := h.accepts
  exact Grammar.declares_of_isHeader
    (Progress.isHeader_of_follows (Progress.follows_of_accepts haccepts))

/-- Of what is read for a header, only comments can hold the replacement character. -/
theorem replacement_notMem (h : StopsBehind .start text ls left header) (hl : l ∈ ls)
    (hcomment : l.isComment = false) : '\uFFFD' ∉ l.text := by
  have hspelled := (Lexeme.areRead_iff.1 h.reads).2.isSpelled hl
  obtain ⟨hdeclares, -⟩ := h.declares
  refine Lexeme.replacement_notMem hspelled hcomment (fun c hmark => ?_) fun hliteral => ?_
  · exact hdeclares.marks c (List.mem_filterMap.2 ⟨l, hl, hmark⟩)
  · have hmem : ImportPath.ofLiteral (String.ofList l.text) ∈ header.imports.map .ok := by
      rw [← hdeclares.literals, Lexeme.filterMap_literal?, List.map_map]
      exact List.mem_map_of_mem (List.mem_filter.2 ⟨hl, hliteral⟩)
    obtain ⟨path, -, hpath⟩ := List.mem_map.1 hmem
    exact ⟨path, hpath.symm⟩

end StopsBehind

/-- What a header is decoded from. Up to where its reading stops, every replacement character in the
decoded text is in a comment, and every lexeme that is none is decoded from the bytes of its own
text. Among these are the name of the package, which is the word behind the keyword, and the
literals that spell the paths of the imports. -/
theorem ofSource_decodeLossy_verbatim {bytes : List UInt8} {header : Header}
    (h : ofSource (Utf8.decodeLossy bytes) = .ok header) :
    ∃ (mark : List UInt8) (stretches : List Stretch) (behind : List UInt8)
        (words literals : List String),
      bytes = mark ++ stretches.flatMap Stretch.bytes ++ behind ∧
      (mark = [] ∨ mark = Utf8.encode "\uFEFF") ∧
      StopsBehind .start (Cursor.ofSource (Utf8.decodeLossy bytes)).rest
        (stretches.map Stretch.lexeme) (Utf8.decodeLossy behind).toList header ∧
      (∀ p ∈ stretches, p.IsVerbatim) ∧
      (stretches.filter (·.lexeme.isName)).map Stretch.bytes =
        ("package" :: header.packageName :: words).map Utf8.encode ∧
      (stretches.filter (·.lexeme.isLiteral)).map Stretch.bytes = literals.map Utf8.encode ∧
      literals.map ImportPath.ofLiteral = header.imports.map .ok := by
  obtain ⟨ls, left, hstops⟩ := exists_stopsBehind h
  obtain ⟨hdeclares, words, hwords⟩ := hstops.declares
  obtain ⟨mark, rest, rfl, hmark, hrest⟩ := Cursor.exists_mark_of_decodeLossy bytes
  have htext := hrest.symm.trans (Lexeme.areRead_iff.1 hstops.reads).1
  obtain ⟨stretches, behind, rfl, rfl, rfl, hdecoded⟩ := Stretch.exists_of_decodeLossy htext
  have hverbatim : ∀ p ∈ stretches, p.IsVerbatim := fun p hp =>
    .of_clean (hdecoded p hp) fun hcomment =>
      hstops.replacement_notMem (List.mem_map_of_mem hp) hcomment
  refine ⟨mark, stretches, behind, words,
    ((stretches.map Stretch.lexeme).filter Lexeme.isLiteral).map fun l => String.ofList l.text,
    (List.append_assoc _ _ _).symm, hmark, hstops, hverbatim, ?_, ?_, ?_⟩
  · rw [Stretch.map_bytes hverbatim fun l => Lexeme.isComment_of_isName, ← Lexeme.filterMap_word?,
      hwords]
  · exact Stretch.map_bytes hverbatim fun l => Lexeme.isComment_of_isLiteral
  · rw [← Lexeme.filterMap_literal?, hdeclares.literals]

/-- A source with a byte that is in no text in a comment, and one in what is not read. -/
def latinComment : List UInt8 :=
  Utf8.encode "// caf" ++ 0xE9 :: Utf8.encode "\npackage p\nimport \"a\"\nvar " ++ [0xFF]

theorem ofSource_decodeLossy_latinComment :
    ofSource (Utf8.decodeLossy latinComment) = .ok ⟨"p", ["a"]⟩ ∧
      ∃ (stretches : List Stretch) (literals : List String),
        (∀ p ∈ stretches, p.IsVerbatim) ∧
        (stretches.filter (·.lexeme.isLiteral)).map Stretch.bytes = literals.map Utf8.encode ∧
        literals.map ImportPath.ofLiteral = [.ok "a"] := by
  have h : ofSource (Utf8.decodeLossy latinComment) = .ok ⟨"p", ["a"]⟩ := by decide +kernel
  obtain ⟨-, stretches, -, -, literals, -, -, -, hverbatim, -, hbytes, himports⟩ :=
    ofSource_decodeLossy_verbatim h
  exact ⟨h, stretches, literals, hverbatim, hbytes, himports⟩

end Header

end VendorBuild
