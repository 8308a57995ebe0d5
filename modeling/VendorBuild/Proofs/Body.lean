import VendorBuild.Proofs.Acceptance
import VendorBuild.Proofs.Stepwise
import VendorBuild.Proofs.Utf8
import Mathlib.Data.List.Basic

/-!
# Bodies are not read

A header that is read from the front of a source stays the same whatever comes behind it, as long as
that starts on a line of its own and with a word other than the keyword of an import. No lexeme in
front of the line break reaches behind it, and no token behind the word is asked for. So the rest of
the source need not be made of tokens, nor even be text.

Results:
* `Cursor.Reads.append`: the tokens on the lines of a source are the same in a longer one.
* `Progress.Accepts.of_newline`: a header that is complete at the end is complete before any stop.
* `Header.ofSource_append`: a header is the same with a body behind it.
* `Header.ofSource_decodeLossy_append`: the body need not be text.
-/

namespace VendorBuild

open Text

/-! ## Tokens in a longer source -/

/-- What is left of a source behind a lexeme ends as the source does, unless the lexeme is the end
of its last line. -/
theorem Lexeme.getLast?_of_read {c : Char} {rest left : List Char} {l : Lexeme}
    (h : read c rest = .ok (l, left)) (hline : (c :: rest).getLast? = some '\n') :
    left.getLast? = some '\n' ∨ left = [] ∧ l = .newline := by
  rw [← text_append_of_read h] at hline
  by_cases hleft : left = []
  · rw [hleft, List.append_nil] at hline
    exact .inr ⟨hleft, eq_newline_of_getLast? h hline⟩
  · rw [List.getLast?_append_of_ne_nil _ hleft] at hline
    exact .inl hline

namespace Cursor

/-- A token on the lines of a source is the same in a longer source. If nothing is left behind it,
it is the end of the last line. -/
theorem readToken_append {line : Nat} {source : List Char} {t : Token} {after : Cursor}
    (more : List Char) (h : readToken line source = .token t after)
    (hline : source.getLast? = some '\n') :
    readToken line (source ++ more) = .token t ⟨after.line, after.rest ++ more⟩ ∧
      (after.rest.getLast? = some '\n' ∨ after.rest = [] ∧ t.kind = .newline) := by
  fun_induction readToken line source with
  | case1 => cases h
  | case2 => cases h
  | case3 line c rest lexeme left hread kind hkind =>
    cases h
    have hlast := Lexeme.getLast?_of_read hread hline
    have hlong := Lexeme.read_append more hread (hlast.imp (fun h he => by simp [he] at h) (·.2))
    refine ⟨readToken_of_token? hlong hkind, hlast.imp id ?_⟩
    rintro ⟨hleft, rfl⟩
    exact ⟨hleft, (Option.some.inj hkind).symm⟩
  | case4 line c rest lexeme left hread hkind ih =>
    have hlast : left.getLast? = some '\n' :=
      (Lexeme.getLast?_of_read hread hline).resolve_right fun he => by
        rw [he.2] at hkind
        cases hkind
    have hlong := Lexeme.read_append more hread (.inl fun he => by simp [he] at hlast)
    rw [List.cons_append, readToken_of_token?_eq_none hlong hkind]
    exact ih h hlast

theorem readToken_ne_finished {line n : Nat} {source : List Char}
    (hline : source.getLast? = some '\n') : readToken line source ≠ .finished n := by
  intro h
  fun_induction readToken line source with
  | case1 => cases hline
  | case2 => cases h
  | case3 => cases h
  | case4 line c rest lexeme left hread hkind ih =>
    refine ih ((Lexeme.getLast?_of_read hread hline).resolve_right fun he => ?_) h
    rw [he.2] at hkind
    cases hkind

/-- The tokens on the lines of a source are the same in a longer source. Where the source ended, the
first token of what comes behind it is found, on a line of its own. -/
theorem Reads.append {cur : Cursor} {tokens : List TokenKind} {stop : Option TokenKind}
    {more : List Char} {k : TokenKind} (h : cur.Reads tokens stop)
    (hline : cur.rest.getLast? = some '\n')
    (hmore : ∀ line, (Cursor.mk line more).Reads [] (some k)) :
    (Cursor.mk cur.line (cur.rest ++ more)).Reads tokens (some (stop.getD k)) ∧
      (stop = none → tokens.getLast? = some .newline) := by
  induction h with
  | stop hnext =>
    refine ⟨.stop (readToken_append more hnext hline).1, fun hstop => ?_⟩
    cases hstop
  | finish hnext => exact absurd hnext (readToken_ne_finished hline)
  | @token cur after t tokens stop hnext hrest ih =>
    obtain ⟨hlong, hlast | ⟨hleft, hkind⟩⟩ := readToken_append more hnext hline
    · obtain ⟨hreads, hend⟩ := ih hlast
      refine ⟨.token hlong hreads, fun hstop => ?_⟩
      rw [List.getLast?_cons, hend hstop]
      rfl
    -- nothing is left behind the token, so it is the last one
    · have hrest' : tokens = [] ∧ stop = none := by
        have hnone : after.next = .finished after.line := by rw [next, hleft, readToken]
        cases hrest with
        | stop h =>
          rw [hnone] at h
          cases h
        | finish => exact ⟨rfl, rfl⟩
        | token h =>
          rw [hnone] at h
          cases h
      obtain ⟨rfl, rfl⟩ := hrest'
      rw [hleft, List.nil_append] at hlong
      exact ⟨.token hlong (hmore after.line), fun _ => congrArg some hkind⟩

theorem reads_word (line : Nat) {c : Char} (cs : List Char) (h : isNameStart c = true) :
    (mk line (c :: cs)).Reads [] (some (.name (String.ofList (c :: cs.takeWhile isNamePart)))) := by
  have hread := Lexeme.read_of_isRead (@Lexeme.IsRead.name c cs h)
  have hnext : (mk line (c :: cs)).next = _ := readToken_of_token? hread rfl
  exact .stop hnext

/-- The beginning of a source is that of a longer one. -/
theorem ofSource_append {text : String} (more : String) (hline : text.toList.getLast? = some '\n') :
    ofSource (text ++ more) = ⟨(ofSource text).line, (ofSource text).rest ++ more.toList⟩ ∧
      (ofSource text).rest.getLast? = some '\n' := by
  unfold ofSource
  rw [String.toList_append]
  cases hsource : text.toList with
  | nil => simp [hsource] at hline
  | cons c rest =>
    rw [hsource] at hline
    by_cases hc : c = '\uFEFF'
    · subst hc
      cases rest with
      | nil => exact absurd hline (by decide)
      | cons d rest => exact ⟨rfl, by simpa using hline⟩
    · split <;> simp_all

end Cursor

/-! ## Headers in a longer source -/

/-- The longest run of name characters at the front of a text. -/
def leadingWord (text : String) : String := String.ofList (text.toList.takeWhile isNamePart)

namespace Progress

theorem place_of_step_newline {s s' : Progress} (h : s.step (some .newline) = .ok (some s')) :
    s'.place ≠ .lineEnd := by
  obtain ⟨place, header⟩ := s
  cases place <;> cases h <;> simp

/-- A header that is complete at the end of a source, behind a line break, is complete in front of
anything else that cannot belong to it. -/
theorem Accepts.of_newline {s : Progress} {tokens : List TokenKind} {header : Header}
    {stop : Option TokenKind} (h : s.Accepts none tokens header)
    (hlast : tokens.getLast? = some .newline) (hstop : IsStop stop) :
    s.Accepts stop tokens header := by
  induction h with
  | done => cases hlast
  | @move s s' k tokens header hstep hrest ih =>
    cases tokens with
    | nil =>
      cases hlast
      cases hrest with
      | done hdone =>
        obtain ⟨hplace, -⟩ | ⟨hplace, -⟩ := place_of_step_none hdone
        · exact absurd hplace (place_of_step_newline hstep)
        · obtain ⟨place, header⟩ := s'
          cases hplace
          exact .move hstep (.done (step_declaration_of_isStop hstop))
    | cons l tokens => exact .move hstep (ih hlast)

end Progress

namespace Header

/-- A header is the same with a body behind it, if the body starts with a word that is not the
keyword of an import, on a line of its own. -/
theorem ofSource_append {text more : String} {header : Header} {c : Char} {cs : List Char}
    (hline : text.toList.getLast? = some '\n') (hheader : ofSource text = .ok header)
    (hmore : more.toList = c :: cs) (hstart : isNameStart c = true)
    (hword : leadingWord more ≠ "import") : ofSource (text ++ more) = .ok header := by
  obtain ⟨hsource, hrest⟩ := Cursor.ofSource_append more hline
  obtain ⟨tokens, stop, hreads, haccepts⟩ := read_eq_ok_iff.1 hheader
  rw [leadingWord, hmore, List.takeWhile_cons_of_pos (by rw [isNamePart, hstart, Bool.true_or])]
    at hword
  have hstop : IsStop (some (.name (String.ofList (c :: cs.takeWhile isNamePart)))) := by
    rintro k hk
    cases hk
    exact ⟨fun he => hword (TokenKind.name.inj he), by rintro (he | he) <;> cases he⟩
  obtain ⟨hlong, hend⟩ := hreads.append hrest fun line => Cursor.reads_word line cs hstart
  rw [ofSource, hsource, hmore]
  refine read_eq_ok_iff.2 ⟨tokens, _, hlong, ?_⟩
  cases stop with
  | none => exact haccepts.of_newline (hend rfl) hstop
  | some k => exact haccepts

end Header

/-! ## Bodies that are not text -/

namespace Utf8

theorem decodeLossy_append (text : String) (bytes : List UInt8) :
    decodeLossy (encode text ++ bytes) = text ++ decodeLossy bytes := by
  rw [decodeLossy, encode, split_flatMap_append, List.map_append, String.ofList_append]
  simp [decodeLossy, Function.comp_def]

theorem decodeLossy_cons {b : UInt8} (h : b < 0x80) (rest : List UInt8) :
    (decodeLossy (b :: rest)).toList = Char.ofNat b.toNat :: (decodeLossy rest).toList := by
  have hlead : lead? b = some ⟨b.toNat, []⟩ := by rw [lead?, if_pos h]
  simp [decodeLossy, split, readUnit_eq hlead rfl]

end Utf8

/-- Whether a byte is an ASCII letter or the underscore. -/
def isWordByte (b : UInt8) : Bool :=
  b = 0x5F || (0x41 ≤ b && b ≤ 0x5A) || (0x61 ≤ b && b ≤ 0x7A)

theorem lt_and_isNameStart_of_isWordByte {b : UInt8} (h : isWordByte b = true) :
    b < 0x80 ∧ isNameStart (Char.ofNat b.toNat) = true := by
  have hall : ∀ b : Fin 256, isWordByte (UInt8.ofNat b) = true →
      UInt8.ofNat b < 0x80 ∧ isNameStart (Char.ofNat (UInt8.ofNat b).toNat) = true := by
    decide +kernel
  have hb := hall ⟨b.toNat, b.toNat_lt⟩
  rw [UInt8.ofNat_toNat] at hb
  exact hb h

namespace Header

/-- The body of a file is not read. Whatever bytes stand behind a header that ends with its line, if
they start with a word that is not the keyword of an import, the header is the same. -/
theorem ofSource_decodeLossy_append {text : String} {header : Header} {b : UInt8}
    {body : List UInt8} (hline : text.toList.getLast? = some '\n')
    (hheader : ofSource text = .ok header) (hstart : isWordByte b = true)
    (hword : leadingWord (Utf8.decodeLossy (b :: body)) ≠ "import") :
    ofSource (Utf8.decodeLossy (Utf8.encode text ++ b :: body)) = .ok header := by
  obtain ⟨hlt, hname⟩ := lt_and_isNameStart_of_isWordByte hstart
  rw [Utf8.decodeLossy_append]
  exact ofSource_append hline hheader (Utf8.decodeLossy_cons hlt body) hname hword

/-- A function that breaks off in a literal, with a byte that is in no text. -/
def brokenBody : List UInt8 := Utf8.encode "func f() \x7b s := \"" ++ [0xFF]

theorem ofSource_decodeLossy_append_brokenBody :
    Utf8.decode? brokenBody = none ∧
      ofSource (Utf8.decodeLossy (Utf8.encode "package p\nimport \"a/b\"\n" ++ brokenBody)) =
        .ok ⟨"p", ["a/b"]⟩ :=
  ⟨by decide +kernel,
    ofSource_decodeLossy_append (by decide +kernel) (by decide +kernel) (by decide +kernel)
      (by decide +kernel)⟩

end Header

end VendorBuild
