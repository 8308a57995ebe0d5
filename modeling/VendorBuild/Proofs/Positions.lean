import VendorBuild.Proofs.Stepwise

/-!
# Where tokens stand

A call for the next token passes over white space and comments that hold no line feed, and takes the
lexeme behind them. So what calls have taken in is made up of the tokens they gave and of nothing
else but such white space and comments, and the line of a token is one more than the number of line
feeds in front of it. The same is true of the end of the source, of a construct that does not end,
and so of all that a header is refused for.

Results:
* `Lexeme.areRead_iff`: lexemes are read one after the other exactly where they stand.
* `Cursor.isPlaced_readToken`: what one call finds is in its place.
* `Cursor.Gives.exists_pieces`: what calls have taken in, piece by piece.
* `Header.exists_gives_of_read`: what a header is refused for is what some call finds.
* `Cursor.tokens_are_placed`: tokens make up their source, each on its line.
-/

namespace VendorBuild

open Text

namespace Lexeme

/-- Lexemes that stand one after the other in front of a text. Each is spelled as its kind is and
can end where the next one starts. -/
inductive Stand : List Lexeme → List Char → Prop
  | nil {after : List Char} : Stand [] after
  | cons {l : Lexeme} {ls : List Lexeme} {after : List Char} (hspelled : l.IsSpelled)
      (hend : l.EndsBefore (ls.flatMap text ++ after).head?) (hrest : Stand ls after) :
      Stand (l :: ls) after

/-- What can stand in front of a token and is none: white space other than a line feed, and comments
that hold no line feed. -/
inductive IsTrivia : Lexeme → Prop
  | blank {c : Char} (hline : c ≠ '\n') (hblank : isBlank c = true) : IsTrivia (blank c)
  | lineComment {body : List Char} (hline : '\n' ∉ body) : IsTrivia (lineComment body)
  | blockComment {body : List Char} (hline : '\n' ∉ body) : IsTrivia (blockComment body)

variable {source after : List Char} {l : Lexeme} {ls : List Lexeme}

/-- Lexemes are read one after the other exactly from a text in which they stand. -/
theorem areRead_iff :
    AreRead source ls after ↔ source = ls.flatMap text ++ after ∧ Stand ls after := by
  constructor
  · intro h
    refine ⟨h.flatMap_text_append.symm, ?_⟩
    induction h with
    | nil => exact .nil
    | cons hread hrest ih =>
      obtain ⟨hspelled, hend, -⟩ := read_eq_ok_iff_isSpelled.1 hread
      rw [← hrest.flatMap_text_append] at hend
      exact .cons hspelled hend ih
  · rintro ⟨rfl, h⟩
    induction h with
    | nil => exact .nil
    | @cons l ls after hspelled hend _ ih =>
      obtain ⟨c, rest, htext, hread⟩ := hspelled.exists_read hend
      rw [List.flatMap_cons, List.append_assoc, htext]
      exact .cons hread ih

theorem Stand.isSpelled (h : Stand ls after) (hl : l ∈ ls) : l.IsSpelled := by
  induction h with
  | nil => cases hl
  | cons hspelled _ _ ih =>
    obtain rfl | hl := List.mem_cons.1 hl
    · exact hspelled
    · exact ih hl

theorem IsSpelled.isTrivia (h : l.IsSpelled) (htoken : l.token? = none) : l.IsTrivia := by
  cases h with
  | blank hline hblank => exact .blank hline hblank
  | lineComment hline => exact .lineComment hline
  | @blockComment body _ =>
    apply IsTrivia.blockComment
    intro hmem
    simp [token?, hmem] at htoken
  | _ => cases htoken

end Lexeme

/-! ## Pieces of a source -/

/-- What one call takes in: the lexemes that it passes over, and the lexeme that it gives as a
token. -/
structure Piece where
  passed : List Lexeme
  lexeme : Lexeme
  token : Token

namespace Piece

/-- The source text of a piece. -/
def text (p : Piece) : List Char := (p.passed ++ [p.lexeme]).flatMap Lexeme.text

/-- Whether a piece stands between two texts, and its token is the one lexeme in it that is no
trivia, on the line that the line feeds in front of it tell. -/
structure IsPlaced (before : List Char) (p : Piece) (after : List Char) : Prop where
  stands : Lexeme.Stand (p.passed ++ [p.lexeme]) after
  trivia : ∀ l ∈ p.passed, l.IsTrivia
  kind : p.lexeme.token? = some p.token.kind
  line : p.token.line = 1 + (before ++ p.passed.flatMap Lexeme.text).count '\n'

/-- Whether pieces stand one after the other between two texts. -/
def ArePlaced (before : List Char) : List Piece → List Char → Prop
  | [], _ => True
  | p :: ps, after =>
    p.IsPlaced before (ps.flatMap text ++ after) ∧ ArePlaced (before ++ p.text) ps after

/-- A piece that passes over one more lexeme. -/
theorem IsPlaced.passing {before after : List Char} {p : Piece} {l : Lexeme} (hspelled : l.IsSpelled)
    (htrivia : l.IsTrivia) (hend : l.EndsBefore (p.text ++ after).head?)
    (h : p.IsPlaced (before ++ l.text) after) :
    (⟨l :: p.passed, p.lexeme, p.token⟩ : Piece).IsPlaced before after where
  stands := .cons hspelled hend h.stands
  trivia := List.forall_mem_cons.2 ⟨htrivia, h.trivia⟩
  kind := h.kind
  line := by
    rw [h.line, List.flatMap_cons, List.append_assoc]

end Piece

namespace Reading

/-- Whether what a call finds is in its place, given the text in front of the call and the text
behind it: a token is the end of a piece and leaves less to read, the end of the source has nothing
but trivia in front of it, and so has a construct that does not end. -/
inductive IsPlaced (before rest : List Char) : Reading → Prop
  | token {p : Piece} {after : Cursor} (placed : p.IsPlaced before after.rest)
      (text : rest = p.text ++ after.rest) (advances : after.rest.length < rest.length)
      (line : after.line = 1 + (before ++ p.text).count '\n') :
      IsPlaced before rest (.token p.token after)
  | finished {passed : List Lexeme} {line : Nat} (stands : Lexeme.Stand passed [])
      (trivia : ∀ l ∈ passed, l.IsTrivia) (text : rest = passed.flatMap Lexeme.text)
      (line_eq : line = 1 + (before ++ rest).count '\n') : IsPlaced before rest (.finished line)
  | unclosed {passed : List Lexeme} {c : Char} {cut : List Char} {what : Unclosed} {line : Nat}
      (stands : Lexeme.Stand passed (c :: cut)) (trivia : ∀ l ∈ passed, l.IsTrivia)
      (text : rest = passed.flatMap Lexeme.text ++ c :: cut)
      (cutOff : Lexeme.IsCutOff c cut what)
      (line_eq : line = 1 + (before ++ passed.flatMap Lexeme.text).count '\n') :
      IsPlaced before rest (.unclosed what line)

/-- What is found behind a lexeme that is passed over is found from in front of it. -/
theorem IsPlaced.passing {before rest : List Char} {reading : Reading} {l : Lexeme}
    (hspelled : l.IsSpelled) (htrivia : l.IsTrivia) (hend : l.EndsBefore rest.head?)
    (h : reading.IsPlaced (before ++ l.text) rest) : reading.IsPlaced before (l.text ++ rest) := by
  cases h with
  | @token p after placed text advances line =>
    rw [text] at hend
    refine @token before _ ⟨l :: p.passed, p.lexeme, p.token⟩ after
      (placed.passing hspelled htrivia hend) ?_ ?_ ?_
    · rw [text, ← List.append_assoc]
      rfl
    · rw [List.length_append]
      omega
    · rw [line, List.append_assoc]
      rfl
  | finished stands trivia text line =>
    subst text
    refine .finished (.cons hspelled ?_ stands) (List.forall_mem_cons.2 ⟨htrivia, trivia⟩) ?_ ?_
    · rwa [List.append_nil]
    · rw [List.flatMap_cons]
    · rw [line, List.append_assoc]
  | unclosed stands trivia text cutOff line =>
    subst text
    refine .unclosed (.cons hspelled hend stands) (List.forall_mem_cons.2 ⟨htrivia, trivia⟩) ?_
      cutOff ?_
    · rw [List.flatMap_cons, List.append_assoc]
    · rw [line, List.flatMap_cons, List.append_assoc]

end Reading

namespace Cursor

/-! ## One call -/

theorem isPlaced_readToken {before text : List Char} {line : Nat}
    (hline : line = 1 + before.count '\n') : (readToken line text).IsPlaced before text := by
  -- induction on the lexemes that are passed over; the line stays right behind each of them
  fun_induction readToken line text generalizing before with
  | case1 line => exact .finished .nil (by simp) rfl (by simpa using hline)
  | case2 line c rest what hread =>
    exact .unclosed .nil (by simp) rfl (Lexeme.read_eq_error_iff.1 hread) (by simpa using hline)
  | case3 line c rest l left hread kind hkind =>
    obtain ⟨hspelled, hend, htext⟩ := Lexeme.read_eq_ok_iff_isSpelled.1 hread
    have hplaced : (⟨[], l, ⟨kind, line⟩⟩ : Piece).IsPlaced before left :=
      ⟨.cons hspelled hend .nil, by simp, hkind, by simpa using hline⟩
    refine @Reading.IsPlaced.token before _ ⟨[], l, ⟨kind, line⟩⟩ ⟨line + l.lineBreaks, left⟩
      hplaced ?_ (Lexeme.length_of_read hread) ?_
    · simp [Piece.text, htext]
    · simp [Piece.text, hline, Lexeme.lineBreaks, Nat.add_assoc]
  | case4 line c rest l left hread hkind ih =>
    obtain ⟨hspelled, hend, htext⟩ := Lexeme.read_eq_ok_iff_isSpelled.1 hread
    rw [← htext]
    apply Reading.IsPlaced.passing hspelled (hspelled.isTrivia hkind) hend
    apply ih
    rw [hline, Lexeme.lineBreaks, List.count_append, Nat.add_assoc]

/-! ## Calls one after the other -/

/-- The tokens that calls give one after the other from a place on, and the place they reach. -/
inductive Gives : Cursor → List Token → Cursor → Prop
  | nil {cur : Cursor} : Gives cur [] cur
  | cons {cur after place : Cursor} {t : Token} {tokens : List Token} (h : cur.next = .token t after)
      (hrest : Gives after tokens place) : Gives cur (t :: tokens) place

/-- What calls have taken in is the pieces that their tokens end, each in its place. -/
theorem Gives.exists_pieces {cur place : Cursor} {tokens : List Token} {before : List Char}
    (h : cur.Gives tokens place) (hline : cur.line = 1 + before.count '\n') :
    ∃ pieces : List Piece, pieces.map (·.token) = tokens ∧
      cur.rest = pieces.flatMap Piece.text ++ place.rest ∧
      Piece.ArePlaced before pieces place.rest ∧
      place.line = 1 + (before ++ pieces.flatMap Piece.text).count '\n' := by
  induction h generalizing before with
  | nil => exact ⟨[], rfl, rfl, trivial, by simpa using hline⟩
  | cons hnext hrest ih =>
    have hfound : (next _).IsPlaced before _ := isPlaced_readToken hline
    rw [hnext] at hfound
    cases hfound with
    | @token p after placed text advances line =>
      obtain ⟨pieces, rfl, hsource, hplaced, hend⟩ := ih line
      refine ⟨p :: pieces, rfl, ?_, ⟨?_, hplaced⟩, ?_⟩
      · rw [text, hsource, List.flatMap_cons, List.append_assoc]
      · rwa [← hsource]
      · rw [hend, List.flatMap_cons, List.append_assoc]

theorem line_ofSource (source : String) : (ofSource source).line = 1 := by
  unfold ofSource
  split <;> rfl

/-- The pieces that calls from the beginning of a source have taken in, and what the next one finds.
-/
theorem Gives.exists_pieces_ofSource {source : String} {tokens : List Token} {place : Cursor}
    (h : (ofSource source).Gives tokens place) :
    ∃ pieces : List Piece, pieces.map (·.token) = tokens ∧
      (ofSource source).rest = pieces.flatMap Piece.text ++ place.rest ∧
      Piece.ArePlaced [] pieces place.rest ∧
      place.next.IsPlaced (pieces.flatMap Piece.text) place.rest := by
  have hstart : (ofSource source).line = 1 + [].count '\n' := line_ofSource source
  obtain ⟨pieces, htokens, hsource, hplaced, hline⟩ := h.exists_pieces hstart
  exact ⟨pieces, htokens, hsource, hplaced, isPlaced_readToken hline⟩

theorem toList_eq_ofSource (source : String) :
    source.toList = '\uFEFF' :: (ofSource source).rest ∨
      source.toList = (ofSource source).rest ∧ source.toList.head? ≠ some '\uFEFF' := by
  unfold ofSource
  split
  · rename_i rest hsource
    exact .inl hsource
  · rename_i hmark
    refine .inr ⟨rfl, fun hhead => ?_⟩
    obtain ⟨rest, hsource⟩ := List.head?_eq_some_iff.1 hhead
    exact hmark rest hsource

end Cursor

/-! ## What headers are refused for -/

/-- Whether a header is refused for what a call finds, on the line where that is. -/
inductive HeaderFault.IsAbout : HeaderFault → Reading → Prop
  | unclosed {what : Unclosed} {line : Nat} : IsAbout (.unclosed what line) (.unclosed what line)
  | token {wanted : Expectation} {t : Token} {after : Cursor} :
      IsAbout (.unexpected wanted (some t.kind) t.line) (.token t after)
  | finished {wanted : Expectation} {line : Nat} :
      IsAbout (.unexpected wanted none line) (.finished line)
  | literal {literal : String} {fault : LiteralFault} {line : Nat} {after : Cursor} :
      IsAbout (.badImport literal fault) (.token ⟨.literal literal, line⟩ after)

namespace Progress

variable {s : Progress} {found : Option TokenKind} {literal : String} {fault : LiteralFault}

theorem eq_of_takeImport_badImport {grouped : Bool} {text : String}
    (h : s.takeImport grouped text = .error (.badImport literal fault)) : text = literal := by
  unfold takeImport at h
  split at h <;> cases h
  rfl

theorem eq_of_startImport_badImport {grouped : Bool}
    (h : s.startImport grouped found = .error (.badImport literal fault)) :
    found = some (.literal literal) := by
  unfold startImport at h
  split at h
  · cases h
  · split at h <;> cases h
  · rw [eq_of_takeImport_badImport h]
  · cases h

/-- Only a literal is refused as an import that is none. -/
theorem eq_literal_of_step_badImport (h : s.step found = .error (.badImport literal fault)) :
    found = some (.literal literal) := by
  obtain ⟨place, header⟩ := s
  cases place with
  | importKeyword =>
    simp only [step, importKeywordStep] at h
    split at h
    · cases h
    · cases h
    · exact eq_of_startImport_badImport h
  | importPath grouped =>
    simp only [step, importPathStep] at h
    split at h
    · rw [eq_of_takeImport_badImport h]
    · cases h
  | groupItem =>
    simp only [step, groupItemStep] at h
    split at h
    · cases h
    · cases h
    · cases h
    · exact eq_of_startImport_badImport h
  | _ =>
    simp only [step, startStep, packageNameStep, lineEndStep, declarationStep, groupItemEndStep,
      goTo] at h
    repeat' split at h
    all_goals cases h

end Progress

namespace Header

/-- What a header is refused for is what some call finds, on its line. -/
theorem exists_gives_of_read {s : Progress} {cur : Cursor} {fault : HeaderFault}
    (h : read s cur = .error fault) :
    ∃ tokens place, cur.Gives tokens place ∧ fault.IsAbout place.next := by
  fun_induction read s cur with
  | case1 s cur what line hnext =>
    cases h
    exact ⟨[], cur, .nil, hnext ▸ .unclosed⟩
  | case2 s cur line hnext refusal hstep =>
    cases h
    refine ⟨[], cur, .nil, ?_⟩
    rw [hnext]
    cases refusal with
    | wanted what => exact .finished
    | badImport literal why => cases Progress.eq_literal_of_step_badImport hstep
  | case3 => cases h
  | case4 s cur t after hnext refusal hstep =>
    cases h
    refine ⟨[], cur, .nil, ?_⟩
    rw [hnext]
    cases refusal with
    | wanted what => exact .token
    | badImport literal why =>
      obtain ⟨kind, line⟩ := t
      cases Progress.eq_literal_of_step_badImport hstep
      exact .literal
  | case5 => cases h
  | case6 s cur t after hnext s' hstep ih =>
    obtain ⟨tokens, place, hgives, habout⟩ := ih h
    exact ⟨t :: tokens, place, .cons hnext hgives, habout⟩

end Header

namespace Cursor

/-- Tokens make up their source. Whatever calls have taken in, behind a byte order mark that the
source may start with, is a sequence of pieces, one for each token: trivia and then the token, which
ends where it can and is on the line that the line feeds in front of it tell. What the next call
finds is in its place, too, be it a token, which leaves less to read, the end of the source, or a
construct that does not end. And what a header is refused for is what such a call finds. -/
theorem tokens_are_placed (source : String) :
    (source.toList = '\uFEFF' :: (ofSource source).rest ∨
      source.toList = (ofSource source).rest ∧ source.toList.head? ≠ some '\uFEFF') ∧
    (∀ tokens place, (ofSource source).Gives tokens place →
      ∃ pieces : List Piece, pieces.map (·.token) = tokens ∧
        (ofSource source).rest = pieces.flatMap Piece.text ++ place.rest ∧
        Piece.ArePlaced [] pieces place.rest ∧
        place.next.IsPlaced (pieces.flatMap Piece.text) place.rest) ∧
    ∀ fault, Header.ofSource source = .error fault →
      ∃ tokens place before, (ofSource source).Gives tokens place ∧
        (ofSource source).rest = before ++ place.rest ∧
        place.next.IsPlaced before place.rest ∧ fault.IsAbout place.next := by
  refine ⟨toList_eq_ofSource source, fun tokens place => Gives.exists_pieces_ofSource, ?_⟩
  intro fault hfault
  obtain ⟨tokens, place, hgives, habout⟩ := Header.exists_gives_of_read hfault
  obtain ⟨pieces, -, hsource, -, hfound⟩ := hgives.exists_pieces_ofSource
  exact ⟨tokens, place, _, hgives, hsource, hfound, habout⟩

/-- A source that starts with a byte order mark and a comment on two lines, and has one word too
many on the third. -/
def strayWord : String := "\uFEFF/* a\n */ package p // b\nimport x y"

theorem tokens_are_placed_strayWord :
    (ofSource strayWord).Gives [⟨.newline, 1⟩, ⟨.name "package", 2⟩]
        ⟨2, " p // b\nimport x y".toList⟩ ∧
      (∃ pieces : List Piece,
        pieces.map (·.token) = [⟨.newline, 1⟩, ⟨.name "package", 2⟩] ∧
        (ofSource strayWord).rest = pieces.flatMap Piece.text ++ " p // b\nimport x y".toList ∧
        Piece.ArePlaced [] pieces " p // b\nimport x y".toList) ∧
      Header.ofSource strayWord = .error (.unexpected .importPath (some (.name "y")) 3) ∧
      ∃ tokens place before, (ofSource strayWord).Gives tokens place ∧
        (ofSource strayWord).rest = before ++ place.rest ∧
        place.next.IsPlaced before place.rest ∧
        (HeaderFault.unexpected .importPath (some (.name "y")) 3).IsAbout place.next := by
  have hcomment : (ofSource strayWord).next =
      .token ⟨.newline, 1⟩ ⟨2, " package p // b\nimport x y".toList⟩ := by
    cbv
  have hkeyword : (mk 2 " package p // b\nimport x y".toList).next =
      .token ⟨.name "package", 2⟩ ⟨2, " p // b\nimport x y".toList⟩ := by
    cbv
  have hgives : (ofSource strayWord).Gives [⟨.newline, 1⟩, ⟨.name "package", 2⟩]
      ⟨2, " p // b\nimport x y".toList⟩ := .cons hcomment (.cons hkeyword .nil)
  have hfault : Header.ofSource strayWord =
      .error (.unexpected .importPath (some (.name "y")) 3) := by
    decide +kernel
  obtain ⟨-, hpieces, habout⟩ := tokens_are_placed strayWord
  obtain ⟨pieces, htokens, hsource, hplaced, -⟩ := hpieces _ _ hgives
  exact ⟨hgives, ⟨pieces, htokens, hsource, hplaced⟩, hfault, habout _ hfault⟩

end Cursor

end VendorBuild
