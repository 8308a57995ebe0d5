import VendorBuild.Proofs.Delimiters

/-!
# Line endings

Lines can end in a line feed alone or in a carriage return and a line feed. A carriage return is
white space between tokens, part of a comment in it and dropped from the value of a raw literal, and
a quoted literal that its line cuts off is cut off behind it as well. So a source declares the same
with either ending, and a fault is the same up to the returns in the literal that it shows.

Results:
* `Lexeme.IsRead.withReturns`: a lexeme that ends inside its line is read with the returns that were
  added to it.
* `Progress.step_withReturns`: the automaton moves over a token as over the token without returns.
* `Header.ofSource_withReturns`: a source declares the same with returns added, and has the same
  fault up to the returns in it.
-/

namespace VendorBuild

open Text

/-! ## Adding carriage returns -/

namespace Text

/-- A text with a carriage return in front of each line feed. -/
def addReturns (cs : List Char) : List Char :=
  cs.flatMap fun c => if c = '\n' then ['\r', '\n'] else [c]

/-- A text with a carriage return in front of each line feed. -/
def withReturns (s : String) : String := String.ofList (addReturns s.toList)

theorem addReturns_nil : addReturns [] = [] := rfl

theorem addReturns_newline (cs : List Char) :
    addReturns ('\n' :: cs) = '\r' :: '\n' :: addReturns cs := rfl

theorem addReturns_cons {c : Char} (h : c ≠ '\n') (cs : List Char) :
    addReturns (c :: cs) = c :: addReturns cs := by
  rw [addReturns, List.flatMap_cons, if_neg h]
  rfl

theorem addReturns_append (cs ds : List Char) :
    addReturns (cs ++ ds) = addReturns cs ++ addReturns ds := List.flatMap_append

theorem addReturns_of_notMem {cs : List Char} (h : '\n' ∉ cs) : addReturns cs = cs := by
  induction cs with
  | nil => rfl
  | cons c cs ih =>
    rw [addReturns_cons (List.ne_of_not_mem_cons h).symm, ih (List.not_mem_of_not_mem_cons h)]

theorem mem_addReturns_iff {c : Char} (h : c ≠ '\r') {cs : List Char} :
    c ∈ addReturns cs ↔ c ∈ cs := by
  induction cs with
  | nil => rfl
  | cons d cs ih =>
    by_cases hd : d = '\n'
    · subst hd
      rw [addReturns_newline, List.mem_cons, List.mem_cons, List.mem_cons, ih, or_iff_right h]
    · rw [addReturns_cons hd, List.mem_cons, List.mem_cons, ih]

theorem count_addReturns (cs : List Char) : (addReturns cs).count '\n' = cs.count '\n' := by
  induction cs with
  | nil => rfl
  | cons c cs ih =>
    by_cases hc : c = '\n'
    · subst hc
      rw [addReturns_newline, List.count_cons_of_ne (by decide), List.count_cons_self,
        List.count_cons_self, ih]
    · rw [addReturns_cons hc, List.count_cons_of_ne hc, List.count_cons_of_ne hc, ih]

theorem filter_addReturns (cs : List Char) :
    (addReturns cs).filter (· ≠ '\r') = cs.filter (· ≠ '\r') := by
  induction cs with
  | nil => rfl
  | cons c cs ih =>
    by_cases hc : c = '\n'
    · subst hc
      rw [addReturns_newline, List.filter_cons_of_neg (by decide), List.filter_cons_of_pos (by decide),
        List.filter_cons_of_pos (by decide), ih]
    · rw [addReturns_cons hc, List.filter_cons, List.filter_cons, ih]

/-- Added returns change the first character of a text only where it is a line feed. -/
theorem head?_addReturns {c : Char} {cs : List Char} (hc : (addReturns cs).head? = some c) :
    c = '\r' ∨ cs.head? = some c := by
  cases cs with
  | nil => cases hc
  | cons d cs =>
    by_cases hd : d = '\n'
    · subst hd
      exact .inl (Option.some.inj hc).symm
    · rw [addReturns_cons hd] at hc
      exact .inr hc

/-- A stretch that ends with its line ends in front of a return that is added there. -/
theorem takeWhile_addReturns {p : Char → Bool} (hline : p '\n' = false) (hreturn : p '\r' = false)
    (cs : List Char) :
    (addReturns cs).takeWhile p = cs.takeWhile p ∧
      (addReturns cs).dropWhile p = addReturns (cs.dropWhile p) := by
  induction cs with
  | nil => exact ⟨rfl, rfl⟩
  | cons c cs ih =>
    by_cases hc : c = '\n'
    · subst hc
      simp [addReturns_newline, hline, hreturn]
    · rw [addReturns_cons hc]
      cases hp : p c with
      | true => simp [hp, ih]
      | false => simp [hp, addReturns_cons hc]

end Text

/-! ## Bodies with returns -/

theorem splitComment_cons {c : Char} {rest : List Char}
    (h : c = '*' → rest.head? ≠ some '/') :
    splitComment (c :: rest) = (splitComment rest).map (Prod.map (c :: ·) id) := by
  rw [splitComment]
  · rfl
  · rintro more hstar rfl
    exact h hstar rfl

theorem splitRaw_cons {c : Char} (h : c ≠ '`') (rest : List Char) :
    splitRaw (c :: rest) = (splitRaw rest).map (Prod.map (c :: ·) id) := by
  have hc : decide (c ≠ '`') = true := decide_eq_true h
  unfold splitRaw
  simp only [List.dropWhile_cons, List.takeWhile_cons, hc, if_true]
  split <;> rfl

/-- A character in front of a body stays as it is, and so does a line feed behind its return. -/
theorem map_addReturns_cons (c : Char) (found : Option (List Char × List Char)) :
    (found.map (Prod.map (c :: ·) id)).map (Prod.map addReturns addReturns) =
      if c = '\n' then
        ((found.map (Prod.map addReturns addReturns)).map (Prod.map ('\n' :: ·) id)).map
          (Prod.map ('\r' :: ·) id)
      else (found.map (Prod.map addReturns addReturns)).map (Prod.map (c :: ·) id) := by
  cases found with
  | none => simp
  | some found =>
    split
    · rename_i hc
      rw [hc]
      rfl
    · rename_i hc
      exact congrArg (fun body => some (body, addReturns found.2)) (addReturns_cons hc found.1)

theorem splitComment_addReturns (text : List Char) :
    splitComment (addReturns text) =
      (splitComment text).map (Prod.map addReturns addReturns) := by
  fun_induction splitComment text with
  | case1 => rfl
  | case2 rest => rfl
  | case3 c rest hne ih =>
    refine Eq.trans ?_ (map_addReturns_cons c (splitComment rest)).symm
    rw [← ih]
    split
    · rename_i hc
      rw [hc, addReturns_newline, splitComment_cons fun hstar => absurd hstar (by decide),
        splitComment_cons fun hstar => absurd hstar (by decide)]
    · rename_i hc
      rw [addReturns_cons hc, splitComment_cons]
      intro hstar hslash
      obtain hreturn | hhead := head?_addReturns hslash
      · cases hreturn
      · obtain ⟨more, rfl⟩ := List.head?_eq_some_iff.1 hhead
        exact hne more hstar rfl

/-- A quoted literal is cut out as it is, since it stays on its line. -/
theorem splitQuoted_addReturns (text : List Char) :
    splitQuoted (addReturns text) =
      (splitQuoted text).map (Prod.map id addReturns) := by
  fun_induction splitQuoted text with
  | case1 => rfl
  | case2 rest => rfl
  | case3 rest => rfl
  | case4 rest => rfl
  | case5 c rest hc ih =>
    rw [addReturns_cons (by decide), addReturns_cons hc, splitQuoted, if_neg hc, ih,
      Option.map_map, Option.map_map]
    rfl
  | case6 c rest hquote hline hescape ih =>
    rw [addReturns_cons hline, splitQuoted, ih, Option.map_map, Option.map_map]
    · rfl
    · exact hquote
    · exact hline
    · intro d more hbackslash hmore
      cases rest with
      | nil => cases hmore
      | cons e rest => exact hescape e rest hbackslash rfl

theorem splitRaw_addReturns (text : List Char) :
    splitRaw (addReturns text) =
      (splitRaw text).map (Prod.map addReturns addReturns) := by
  induction text with
  | nil => rfl
  | cons c rest ih =>
    by_cases hquote : c = '`'
    · subst hquote
      rfl
    · rw [splitRaw_cons hquote, map_addReturns_cons, ← ih]
      split
      · rename_i hc
        rw [hc, addReturns_newline, splitRaw_cons (by decide), splitRaw_cons (by decide)]
      · rename_i hc
        rw [addReturns_cons hc, splitRaw_cons hquote]

/-! ## Lexemes and tokens with returns -/

/-- What a token is when its source has returns added. -/
def TokenKind.withReturns : TokenKind → TokenKind
  | literal text => literal (Text.withReturns text)
  | kind => kind

namespace Lexeme

/-- What a lexeme is when its source has returns added, unless a line ends with it. -/
def withReturns : Lexeme → Lexeme
  | blockComment body => blockComment (addReturns body)
  | rawLiteral body => rawLiteral (addReturns body)
  | l => l

variable {c : Char} {rest left : List Char} {l : Lexeme}

theorem isNamePart_return : isNamePart '\r' = false := by
  decide

/-- A lexeme that ends inside its line is read with the returns that were added to it. -/
theorem IsRead.withReturns (h : IsRead c rest l left) (hline : c ≠ '\n')
    (hcomment : ∀ body, l ≠ .lineComment body) :
    IsRead c (addReturns rest) l.withReturns (addReturns left) := by
  cases h with
  | newline => exact absurd rfl hline
  | blank hc hblank => exact .blank hc hblank
  | lineComment => exact absurd rfl (hcomment _)
  | blockComment hsplit =>
    rw [addReturns_cons (by decide)]
    exact .blockComment (by rw [splitComment_addReturns, hsplit]; rfl)
  | quotedLiteral hsplit =>
    exact .quotedLiteral (by rw [splitQuoted_addReturns, hsplit]; rfl)
  | rawLiteral hsplit =>
    exact .rawLiteral (by rw [splitRaw_addReturns, hsplit]; rfl)
  | @name c rest hstart =>
    obtain ⟨htake, hdrop⟩ := takeWhile_addReturns isNamePart_newline isNamePart_return rest
    have hread := @IsRead.name c (addReturns rest) hstart
    rwa [htake, hdrop] at hread
  | mark hc hblank hslash hquote hback hstart =>
    refine .mark hc hblank (fun he => ⟨fun hhead => ?_, fun hhead => ?_⟩) hquote hback hstart
    · exact (hslash he).1 ((head?_addReturns hhead).resolve_left (by decide))
    · exact (hslash he).2 ((head?_addReturns hhead).resolve_left (by decide))

/-- A construct whose closing mark is missing misses it with returns added as well. -/
theorem IsCutOff.addReturns {what : Unclosed} (h : IsCutOff c rest what) :
    IsCutOff c (addReturns rest) what := by
  cases h with
  | comment hsplit =>
    rw [addReturns_cons (by decide)]
    exact .comment (by rw [splitComment_addReturns, hsplit]; rfl)
  | quotedLiteral hsplit => exact .quotedLiteral (by rw [splitQuoted_addReturns, hsplit]; rfl)
  | rawLiteral hsplit => exact .rawLiteral (by rw [splitRaw_addReturns, hsplit]; rfl)

theorem newline_notMem_quotedLiteral {body : List Char} (h : IsQuotedBody body) :
    '\n' ∉ (quotedLiteral body).text := by
  simpa [text] using h.newline_notMem

theorem text_rawLiteral_withReturns (body : List Char) :
    (rawLiteral body).withReturns.text = addReturns (rawLiteral body).text := by
  rw [withReturns, text, text, addReturns_cons (by decide), addReturns_append]
  rfl

theorem lineBreaks_withReturns (l : Lexeme) : l.withReturns.lineBreaks = l.lineBreaks := by
  cases l with
  | blockComment body => simp [withReturns, lineBreaks, text, count_addReturns]
  | rawLiteral body => rw [lineBreaks, text_rawLiteral_withReturns, count_addReturns, lineBreaks]
  | _ => rfl

theorem token?_withReturns (h : l.IsSpelled) :
    l.withReturns.token? = l.token?.map TokenKind.withReturns := by
  cases h with
  | @blockComment body _ =>
    have hmem : '\n' ∈ addReturns body ↔ '\n' ∈ body := mem_addReturns_iff (by decide)
    simp only [withReturns, token?, hmem]
    split <;> rfl
  | @quotedLiteral body hbody =>
    simp only [withReturns, token?, Option.map_some, TokenKind.withReturns, Text.withReturns,
      String.toList_ofList, addReturns_of_notMem (newline_notMem_quotedLiteral hbody)]
  | @rawLiteral body _ =>
    have htext := text_rawLiteral_withReturns body
    rw [withReturns] at htext
    simp only [withReturns, token?, Option.map_some, TokenKind.withReturns, Text.withReturns,
      String.toList_ofList, htext]
  | @mark c =>
    have hmark : (TokenKind.ofMark c).withReturns = TokenKind.ofMark c := by
      unfold TokenKind.ofMark
      split_ifs <;> rfl
    simp only [withReturns, token?, Option.map_some, hmark]
  | _ => rfl

theorem value_withReturns {literal : String} (hspelled : l.IsSpelled)
    (htoken : l.token? = some (.literal literal)) :
    Literal.value (Text.withReturns literal) = Literal.value literal := by
  obtain ⟨htext, ⟨body, rfl⟩ | ⟨body, rfl⟩⟩ := Literal.text_of_token? htoken
  · cases hspelled with
    | quotedLiteral hbody =>
      have hline : '\n' ∉ literal.toList := htext ▸ newline_notMem_quotedLiteral hbody
      rw [Text.withReturns, addReturns_of_notMem hline, String.ofList_toList]
  · have hreturns : (Text.withReturns literal).toList = '`' :: (addReturns body ++ ['`']) := by
      rw [Text.withReturns, String.toList_ofList, ← htext, ← text_rawLiteral_withReturns]
      rfl
    have hmem : '`' ∈ addReturns body ↔ '`' ∈ body := mem_addReturns_iff (by decide)
    rw [Literal.value_of_raw hreturns, Literal.value_of_raw htext.symm, Literal.rawValue,
      Literal.rawValue, filter_addReturns]
    exact if_congr hmem rfl rfl

end Lexeme

/-! ## The automaton over tokens with returns -/

/-- A refusal when the source has returns added. -/
def Refusal.withReturns : Refusal → Refusal
  | wanted what => wanted what
  | badImport literal fault => badImport (Text.withReturns literal) fault

/-- A fault when the source has returns added: they are in the literal that it shows. -/
def HeaderFault.withReturns : HeaderFault → HeaderFault
  | unclosed what line => unclosed what line
  | unexpected wanted found line => unexpected wanted (found.map TokenKind.withReturns) line
  | badImport literal fault => badImport (Text.withReturns literal) fault

theorem Refusal.fault_withReturns (found : Option TokenKind) (line : Nat) (refusal : Refusal) :
    refusal.withReturns.fault (found.map TokenKind.withReturns) line =
      (refusal.fault found line).withReturns := by
  cases refusal <;> rfl

namespace Progress

theorem takeImport_withReturns (s : Progress) (grouped : Bool) {literal : String}
    (h : Literal.value (Text.withReturns literal) = Literal.value literal) :
    s.takeImport grouped (Text.withReturns literal) =
      (s.takeImport grouped literal).mapError Refusal.withReturns := by
  unfold takeImport ImportPath.ofLiteral
  rw [h]
  split <;> rfl

theorem step_withReturns (s : Progress) {found : Option TokenKind}
    (h : ∀ literal, found = some (.literal literal) →
      Literal.value (Text.withReturns literal) = Literal.value literal) :
    s.step (found.map TokenKind.withReturns) = (s.step found).mapError Refusal.withReturns := by
  obtain ⟨place, header⟩ := s
  cases found with
  | none => cases place <;> rfl
  | some kind =>
    cases kind with
    | literal text =>
      have htake := fun grouped => takeImport_withReturns ⟨place, header⟩ grouped (h text rfl)
      cases place with
      | importKeyword => exact htake false
      | importPath grouped => exact htake grouped
      | groupItem => exact htake true
      | _ => rfl
    | name word =>
      cases place with
      | start | packageName | declaration | importKeyword | groupItem =>
        simp only [Option.map_some, TokenKind.withReturns, step, startStep, packageNameStep,
          declarationStep, importKeywordStep, groupItemStep, startImport]
        split_ifs <;> rfl
      | _ => rfl
    | _ => cases place <;> rfl

end Progress

namespace Cursor

theorem exists_ofSource_withReturns (source : String) :
    ∃ text, ofSource source = ⟨1, text⟩ ∧
      ofSource (Text.withReturns source) = ⟨1, addReturns text⟩ := by
  obtain ⟨cs, rfl⟩ : ∃ cs, source = String.ofList cs := ⟨_, String.ofList_toList.symm⟩
  rw [Text.withReturns, String.toList_ofList]
  by_cases hmark : cs.head? = some '\uFEFF'
  · obtain ⟨text, rfl⟩ := List.head?_eq_some_iff.1 hmark
    rw [addReturns_cons (by decide)]
    exact ⟨text, ofSource_mark text, ofSource_mark (addReturns text)⟩
  · have hreturns : (addReturns cs).head? ≠ some '\uFEFF' := fun h =>
      hmark ((head?_addReturns h).resolve_left (by decide))
    exact ⟨cs, ofSource_of_head? hmark, ofSource_of_head? hreturns⟩

end Cursor

/-! ## Headers -/

namespace Header

variable {s : Progress} {line : Nat}

/-- A return between lexemes is passed over. -/
theorem read_return (left : List Char) : read s ⟨line, '\r' :: left⟩ = read s ⟨line, left⟩ := by
  have hread : Lexeme.read '\r' left = .ok (.blank '\r', left) := rfl
  rw [read_cons hread]
  rfl

/-- The return in front of the end of a line belongs to a comment there, but it may stand behind the
comment as well. -/
theorem read_dropWhile_addReturns (cs : List Char) :
    read s ⟨line, (addReturns cs).dropWhile (· ≠ '\n')⟩ =
      read s ⟨line, addReturns (cs.dropWhile (· ≠ '\n'))⟩ := by
  induction cs with
  | nil => rfl
  | cons c cs ih =>
    by_cases hc : c = '\n'
    · subst hc
      exact (read_return ('\n' :: addReturns cs)).symm
    · simpa [addReturns_cons hc, hc] using ih

theorem finish_withReturns : (finish s line).mapError HeaderFault.withReturns = finish s line := by
  have hstep : s.step none = (s.step none).mapError Refusal.withReturns :=
    @Progress.step_withReturns s none fun literal he => by cases he
  unfold finish
  cases hnone : s.step none with
  | ok after => rfl
  | error refusal =>
    rw [hnone] at hstep
    have hfault := refusal.fault_withReturns none line
    rw [← Except.error.inj hstep] at hfault
    exact congrArg Except.error hfault.symm

theorem pass_withReturns {token : Option TokenKind} {go go' : Progress → Except HeaderFault Header}
    (hvalue : ∀ literal, token = some (.literal literal) →
      Literal.value (Text.withReturns literal) = Literal.value literal)
    (hgo : ∀ s', go' s' = (go s').mapError HeaderFault.withReturns) :
    pass s line (token.map TokenKind.withReturns) go' =
      (pass s line token go).mapError HeaderFault.withReturns := by
  cases token with
  | none => exact hgo s
  | some kind =>
    have hstep := s.step_withReturns hvalue
    rw [Option.map_some] at hstep ⊢
    simp only [pass, hstep]
    cases s.step (some kind) with
    | error refusal =>
      exact congrArg Except.error (refusal.fault_withReturns (some kind) line)
    | ok after =>
      cases after with
      | none => rfl
      | some s' => exact hgo s'

/-- If the text behind a lexeme is read with returns as it is without, so is the text from there. -/
theorem read_addReturns_cons {c : Char} {rest left : List Char} {l : Lexeme}
    (h : Lexeme.read c rest = .ok (l, left))
    (hgo : ∀ s line, read s ⟨line, addReturns left⟩ =
      (read s ⟨line, left⟩).mapError HeaderFault.withReturns) :
    read s ⟨line, addReturns (c :: rest)⟩ =
      (read s ⟨line, c :: rest⟩).mapError HeaderFault.withReturns := by
  have hspelled := (Lexeme.read_eq_ok_iff.1 h).isSpelled
  by_cases hline : c = '\n'
  · -- the return in front of a line break is a lexeme of its own
    subst hline
    have hread : ∀ cs, Lexeme.read '\n' cs = .ok (.newline, cs) := fun _ => rfl
    obtain ⟨rfl, rfl⟩ := Prod.mk.inj (Except.ok.inj ((hread rest).symm.trans h))
    rw [addReturns_newline, read_return, read_cons (hread rest), read_cons (hread _)]
    exact @pass_withReturns s line (some .newline) _ _ (fun literal he => by cases he)
      fun s' => hgo s' _
  · cases hread : l with
    | lineComment body =>
      subst hread
      cases Lexeme.read_eq_ok_iff.1 h with
      | @lineComment cs =>
        have hcomment := Lexeme.read_eq_ok_iff.2 (@Lexeme.IsRead.lineComment (addReturns cs))
        rw [read_of_lineComment h, addReturns_cons (by decide), addReturns_cons (by decide),
          read_of_lineComment hcomment, read_dropWhile_addReturns]
        exact hgo s line
    | _ =>
      have hreturns := Lexeme.read_eq_ok_iff.2
        ((Lexeme.read_eq_ok_iff.1 h).withReturns hline fun body he => by simp [hread] at he)
      rw [addReturns_cons hline, read_cons h, read_cons hreturns,
        Lexeme.token?_withReturns hspelled, Lexeme.lineBreaks_withReturns]
      exact pass_withReturns (fun literal => Lexeme.value_withReturns hspelled) fun s' => hgo s' _

/-- Reading a source with returns is reading it without. -/
theorem read_addReturns (s : Progress) (line : Nat) (text : List Char) :
    read s ⟨line, addReturns text⟩ = (read s ⟨line, text⟩).mapError HeaderFault.withReturns := by
  induction hlength : text.length using Nat.strong_induction_on generalizing s line text with
  | _ n ih =>
    cases text with
    | nil => rw [addReturns_nil, read_nil, finish_withReturns]
    | cons c rest =>
      cases hread : Lexeme.read c rest with
      | error what =>
        have hcut := Lexeme.read_eq_error_iff.1 hread
        have hc : c ≠ '\n' := by cases hcut <;> decide
        rw [addReturns_cons hc, read_of_error hread,
          read_of_error (Lexeme.read_eq_error_iff.2 hcut.addReturns)]
        rfl
      | ok found =>
        have hshorter := hlength ▸ Lexeme.length_of_read hread
        exact read_addReturns_cons hread fun s' line' => ih _ hshorter s' line' found.2 rfl

/-- A source whose lines end in a carriage return and a line feed declares what it declares with the
line feeds alone. It has no header for the same reason and on the same line, and where the fault
shows a literal it shows it with the returns. -/
theorem ofSource_withReturns (source : String) :
    ofSource (Text.withReturns source) =
      (ofSource source).mapError HeaderFault.withReturns := by
  obtain ⟨text, htext, hreturns⟩ := Cursor.exists_ofSource_withReturns source
  rw [ofSource, ofSource, htext, hreturns, read_addReturns]

/-- A literal is shown with its returns, but the first illegal character of its value is none. -/
example : ofSource (Text.withReturns "package p\nimport `\na`") =
    .error (.badImport "`\r\na`" (.illegalCharacter '\n')) := by
  decide +kernel

end Header

end VendorBuild
