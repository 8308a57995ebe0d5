import VendorBuild.Proofs.Acceptance
import VendorBuild.Proofs.Comments
import VendorBuild.Proofs.Positions

/-!
# Line breaks behind header tokens

Go ends a statement at a line break behind a name, a literal or a closing parenthesis, and nowhere
else in a header. A line break behind another header token should thus go unnoticed, and behind the
keyword of an import, an opening parenthesis and a semicolon it does: the automaton stays where it
is over a line break there. Behind the keyword of the package clause and behind the dot of an import
it refuses the line break.

Results:
* `Header.toOption_read_congr`: two sources with the same lexemes in front have the same header if
  the same is read behind them.
* `Header.read_of_areRead`: reading moves over the lexemes in front of a source.
* `Progress.step_newline_of_open`: the automaton behind a token that leaves its line open.
* `Header.ofSource_lineBreak`: what a line break behind such a token does to a source.
-/

namespace VendorBuild

namespace Lexeme

variable {ls : List Lexeme} {l : Lexeme} {after after' : List Char}

/-- Lexemes stand in front of another text as well if the last of them can end there. -/
theorem Stand.concat_of_endsBefore (h : Stand (ls ++ [l]) after)
    (hend : l.EndsBefore after'.head?) : Stand (ls ++ [l]) after' := by
  induction ls with
  | nil =>
    cases h with
    | cons hspelled _ _ => exact .cons hspelled hend .nil
  | cons k ls ih =>
    cases h with
    | cons hspelled hk hrest =>
      -- what is next to a lexeme in front of the last one is a lexeme, and so a character
      have hne : (ls ++ [l]).flatMap text ≠ [] := by
        have hl := (hrest.isSpelled (List.mem_append_right ls List.mem_cons_self)).text_ne_nil
        simp [hl]
      refine .cons hspelled ?_ (ih hrest)
      change k.EndsBefore ((ls ++ [l]).flatMap text ++ after).head? at hk
      change k.EndsBefore ((ls ++ [l]).flatMap text ++ after').head?
      rw [List.head?_append_of_ne_nil _ hne] at hk ⊢
      exact hk

end Lexeme

namespace Header

variable {s s' : Progress} {line : Nat} {text text' place place' : List Char} {ls : List Lexeme}

/-! ## Headers apart from lines -/

/-- Passing a token on another line comes to the same header if reading goes on to the same. -/
theorem toOption_pass_congr {line' : Nat} {token : Option TokenKind}
    {go go' : Progress → Except HeaderFault Header}
    (hnone : token = none → (go s).toOption = (go' s).toOption)
    (hsome : ∀ kind s', token = some kind → s.step (some kind) = .ok (some s') →
      (go s').toOption = (go' s').toOption) :
    (pass s line token go).toOption = (pass s line' token go').toOption := by
  cases token with
  | none => exact hnone rfl
  | some kind =>
    simp only [pass]
    split
    · rfl
    · rfl
    · rename_i s' hstep
      exact hsome kind s' rfl hstep

theorem toOption_read_line (s : Progress) (line line' : Nat) (text : List Char) :
    (read s ⟨line, text⟩).toOption = (read s ⟨line', text⟩).toOption := by
  induction hlength : text.length using Nat.strong_induction_on generalizing s line line' text with
  | _ n ih =>
    cases text with
    | nil =>
      rw [read_nil, read_nil, finish, finish]
      split <;> rfl
    | cons c rest =>
      cases hread : Lexeme.read c rest with
      | error what =>
        rw [read_of_error hread, read_of_error hread]
        rfl
      | ok found =>
        have hshorter := hlength ▸ Lexeme.length_of_read hread
        rw [read_cons hread, read_cons hread]
        apply toOption_pass_congr
        · intro _
          exact ih _ hshorter s _ _ found.2 rfl
        · intro _ s' _ _
          exact ih _ hshorter s' _ _ found.2 rfl

/-- Two sources with the same lexemes in front have the same header if from wherever the automaton
comes to over these lexemes the same is read behind them. -/
theorem toOption_read_congr (h : Lexeme.AreRead text ls place) (h' : Lexeme.AreRead text' ls place')
    (hgo : ∀ s', s.Runs (ls.filterMap Lexeme.token?) s' → ∀ line,
      (read s' ⟨line, place⟩).toOption = (read s' ⟨line, place'⟩).toOption) :
    (read s ⟨line, text⟩).toOption = (read s ⟨line, text'⟩).toOption := by
  induction h generalizing s line text' with
  | nil =>
    cases h'
    exact hgo s .nil line
  | @cons c rest left place l ls hread _ ih =>
    cases h' with
    | cons hread' hrest' =>
      rw [read_cons hread, read_cons hread']
      apply toOption_pass_congr
      · intro hnone
        refine ih hrest' fun s' hruns => hgo s' ?_
        rwa [List.filterMap_cons_none hnone]
      · intro kind t hkind hstep
        refine ih hrest' fun s' hruns => hgo s' ?_
        rw [List.filterMap_cons_some hkind]
        exact .cons hstep hruns

theorem read_of_areRead (h : Lexeme.AreRead text ls place)
    (hruns : s.Runs (ls.filterMap Lexeme.token?) s') :
    read s ⟨line, text⟩ = read s' ⟨line + (ls.flatMap Lexeme.text).count '\n', place⟩ := by
  induction h generalizing s line with
  | nil =>
    cases hruns
    rfl
  | @cons c rest left place l ls hread _ ih =>
    have hlines : line + l.lineBreaks + (ls.flatMap Lexeme.text).count '\n' =
        line + ((l :: ls).flatMap Lexeme.text).count '\n' := by
      rw [List.flatMap_cons, List.count_append, Lexeme.lineBreaks, Nat.add_assoc]
    rw [read_cons hread, ← hlines]
    cases hkind : l.token? with
    | none =>
      rw [List.filterMap_cons_none hkind] at hruns
      exact ih hruns
    | some kind =>
      rw [List.filterMap_cons_some hkind] at hruns
      cases hruns with
      | cons hstep hrest =>
        rw [pass_of_move hstep]
        exact ih hrest

end Header

/-! ## Tokens that leave their line open -/

/-- The header tokens behind which the end of a line ends no statement. -/
def lineOpeners : List TokenKind :=
  [.name "package", .name "import", .leftParen, .semicolon, .dot]

theorem Lexeme.eq_of_token?_mem_lineOpeners {l : Lexeme} {kind : TokenKind}
    (h : l.token? = some kind) (hkind : kind ∈ lineOpeners) :
    l = .name "package".toList ∨ l = .name "import".toList ∨ l = .mark '(' ∨ l = .mark ';' ∨
      l = .mark '.' := by
  unfold Lexeme.token? at h
  split at h
  · cases h
    simp [lineOpeners] at hkind
  · cases h
  · cases h
  · split at h <;> cases h
    simp [lineOpeners] at hkind
  · rename_i text
    cases h
    have htext : String.ofList text = "package" ∨ String.ofList text = "import" := by
      simpa [lineOpeners] using hkind
    obtain htext | htext := htext
    · exact .inl (by rw [← htext, String.toList_ofList])
    · exact .inr (.inl (by rw [← htext, String.toList_ofList]))
  · cases h
    simp [lineOpeners] at hkind
  · cases h
    simp [lineOpeners] at hkind
  · rename_i c
    cases h
    unfold TokenKind.ofMark at hkind
    split_ifs at hkind with hsemicolon hleft hright hdot
    · simp [hsemicolon]
    · simp [hleft]
    · simp [lineOpeners] at hkind
    · simp [hdot]
    · simp [lineOpeners] at hkind

/-- A token that leaves its line open can end in front of a line break, and starts no byte order
mark. -/
theorem Lexeme.endsBefore_newline_of_mem_lineOpeners {l : Lexeme} {kind : TokenKind}
    (h : l.token? = some kind) (hkind : kind ∈ lineOpeners) (after : List Char) :
    l.EndsBefore (some '\n') ∧ (l.text ++ after).head? ≠ some '\uFEFF' := by
  have hname : ∀ text, (Lexeme.name text).EndsBefore (some '\n') := by
    intro text d hd
    obtain rfl := Option.some.inj hd
    exact isNamePart_newline
  have hmark : ∀ c, (Lexeme.mark c).EndsBefore (some '\n') := by
    intro c _ d hd
    obtain rfl := Option.some.inj hd
    decide
  obtain rfl | rfl | rfl | rfl | rfl := eq_of_token?_mem_lineOpeners h hkind
  · exact ⟨hname _, by simp [text]⟩
  · exact ⟨hname _, by simp [text]⟩
  · exact ⟨hmark _, by simp [text]⟩
  · exact ⟨hmark _, by simp [text]⟩
  · exact ⟨hmark _, by simp [text]⟩

namespace Progress

variable {s s' : Progress}

/-- Where a token leads that leaves its line open. -/
inductive OpensAt : TokenKind → Place → Prop
  | package : OpensAt (.name "package") .packageName
  | importKeyword : OpensAt (.name "import") .importKeyword
  | leftParen : OpensAt .leftParen .groupItem
  | semicolon : OpensAt .semicolon .declaration
  | groupSemicolon : OpensAt .semicolon .groupItem
  | dot {grouped : Bool} : OpensAt .dot (.importPath grouped)

theorem opensAt_of_step {kind : TokenKind} (hkind : kind ∈ lineOpeners)
    (h : s.step (some kind) = .ok (some s')) : OpensAt kind s'.place := by
  obtain ⟨place, header⟩ := s
  have hkeywords : isKeyword "package" = true ∧ isKeyword "import" = true := by decide
  simp only [lineOpeners, List.mem_cons, List.not_mem_nil, or_false] at hkind
  -- most places refuse most of the tokens; what is left is where the others lead
  obtain rfl | rfl | rfl | rfl | rfl := hkind <;> cases place <;>
    simp [step, startStep, packageNameStep, lineEndStep, declarationStep, importKeywordStep,
      importPathStep, groupItemStep, groupItemEndStep, startImport, goTo, hkeywords] at h <;>
    subst h <;> constructor

/-- The automaton behind a token that leaves its line open: over a line break it stays where it is,
unless the token is the keyword of the package clause or the dot of an import. -/
theorem step_newline_of_open {kind : TokenKind} (hkind : kind ∈ lineOpeners)
    (h : s.step (some kind) = .ok (some s')) :
    s'.step (some .newline) =
      if kind = .name "package" then .error (.wanted .packageName)
      else if kind = .dot then .error (.wanted .importPath)
      else .ok (some s') := by
  have hopens := opensAt_of_step hkind h
  obtain ⟨place, header⟩ := s'
  cases hopens with
  | package => rfl
  | importKeyword => rfl
  | leftParen => rfl
  | semicolon => rfl
  | groupSemicolon => rfl
  | dot => rfl

theorem Runs.exists_step {front : List TokenKind} {k : TokenKind} (h : s.Runs (front ++ [k]) s') :
    ∃ u : Progress, u.step (some k) = .ok (some s') := by
  induction front generalizing s with
  | nil =>
    cases h with
    | cons hstep hrest =>
      cases hrest
      exact ⟨s, hstep⟩
  | cons j front ih =>
    cases h with
    | cons _ hrest => exact ih hrest

end Progress

/-! ## Line breaks behind them -/

namespace Header

/-- Whether reading a header from the beginning of a source goes on behind some lexemes. -/
def GoesOn (ls : List Lexeme) : Prop :=
  ∃ s, Progress.Runs .start (ls.filterMap Lexeme.token?) s

variable {front behind : String} {before : List Lexeme} {l : Lexeme} {kind : TokenKind}

theorem exists_ofSource_lineBreak
    (h : Lexeme.AreRead (Cursor.ofSource (front ++ String.ofList l.text ++ behind)).rest
      (before ++ [l]) behind.toList)
    (hkind : l.token? = some kind) (hopen : kind ∈ lineOpeners) :
    ∃ text text',
      Cursor.ofSource (front ++ String.ofList l.text ++ behind) = ⟨1, text⟩ ∧
      Cursor.ofSource (front ++ String.ofList l.text ++ "\n" ++ behind) = ⟨1, text'⟩ ∧
      Lexeme.AreRead text (before ++ [l]) behind.toList ∧
      Lexeme.AreRead text' (before ++ [l]) ('\n' :: behind.toList) := by
  have hfacts := Lexeme.endsBefore_newline_of_mem_lineOpeners hkind hopen
  obtain ⟨front', hfront⟩ := Cursor.exists_ofSource_append front.toList
  have hold : Cursor.ofSource (front ++ String.ofList l.text ++ behind) =
      ⟨1, front' ++ (l.text ++ behind.toList)⟩ := by
    rw [← hfront _ (hfacts _).2]
    simp [String.append_assoc]
  have hnew : Cursor.ofSource (front ++ String.ofList l.text ++ "\n" ++ behind) =
      ⟨1, front' ++ (l.text ++ '\n' :: behind.toList)⟩ := by
    rw [← hfront _ (hfacts _).2]
    simp [String.append_assoc]
  rw [hold] at h
  obtain ⟨htext, hstand⟩ := Lexeme.areRead_iff.1 h
  have hbefore : front' = before.flatMap Lexeme.text := by
    simpa [← List.append_assoc] using htext
  refine ⟨_, _, hold, hnew, h, Lexeme.areRead_iff.2 ⟨?_, ?_⟩⟩
  · simp [hbefore]
  · exact hstand.concat_of_endsBefore (hfacts []).1

theorem read_newline_of_wanted {s : Progress} {line : Nat} {wanted : Expectation} {rest : List Char}
    (h : s.step (some .newline) = .error (.wanted wanted)) :
    read s ⟨line, '\n' :: rest⟩ = .error (.unexpected wanted (some .newline) line) := by
  have hread : Lexeme.read '\n' rest = .ok (.newline, rest) := rfl
  rw [read_cons hread, Lexeme.token?, pass, h]
  rfl

theorem toOption_read_newline {s : Progress} {line : Nat} {rest : List Char}
    (h : s.step (some .newline) = .ok (some s)) :
    (read s ⟨line, rest⟩).toOption = (read s ⟨line, '\n' :: rest⟩).toOption := by
  have hread := @read_replicate_newline s line h 1 rest
  rw [List.replicate_one, List.singleton_append] at hread
  rw [hread, toOption_read_line s line (line + 1)]

/-- What a line break does behind a token that leaves its line open. It changes neither whether the
source has a header nor the header, unless the header goes on behind a keyword of the package clause
or a dot there: then the source is refused for the line break. -/
theorem ofSource_lineBreak
    (h : Lexeme.AreRead (Cursor.ofSource (front ++ String.ofList l.text ++ behind)).rest
      (before ++ [l]) behind.toList)
    (hkind : l.token? = some kind) (hopen : kind ∈ lineOpeners) :
    ((kind = .name "package" ∨ kind = .dot → ¬ GoesOn (before ++ [l])) →
      (ofSource (front ++ String.ofList l.text ++ "\n" ++ behind)).toOption =
        (ofSource (front ++ String.ofList l.text ++ behind)).toOption) ∧
    (GoesOn (before ++ [l]) →
      (kind = .name "package" →
        ofSource (front ++ String.ofList l.text ++ "\n" ++ behind) =
          .error (.unexpected .packageName (some .newline)
            (1 + ((before ++ [l]).flatMap Lexeme.text).count '\n'))) ∧
      (kind = .dot →
        ofSource (front ++ String.ofList l.text ++ "\n" ++ behind) =
          .error (.unexpected .importPath (some .newline)
            (1 + ((before ++ [l]).flatMap Lexeme.text).count '\n')))) := by
  obtain ⟨text, text', hold, hnew, hread, hread'⟩ := exists_ofSource_lineBreak h hkind hopen
  have htokens : (before ++ [l]).filterMap Lexeme.token? =
      before.filterMap Lexeme.token? ++ [kind] := by
    simp [hkind]
  -- behind the token the automaton is where the token brought it
  have hbehind : ∀ s, Progress.Runs .start ((before ++ [l]).filterMap Lexeme.token?) s →
      s.step (some .newline) =
        if kind = .name "package" then .error (.wanted .packageName)
        else if kind = .dot then .error (.wanted .importPath)
        else .ok (some s) := by
    intro s hruns
    rw [htokens] at hruns
    obtain ⟨u, hstep⟩ := hruns.exists_step
    exact Progress.step_newline_of_open hopen hstep
  rw [ofSource, ofSource, hold, hnew]
  constructor
  · intro hsame
    symm
    apply toOption_read_congr hread hread'
    intro s hruns line
    have hother : ¬ (kind = .name "package" ∨ kind = .dot) := fun hk => hsame hk ⟨s, hruns⟩
    have hstay := hbehind s hruns
    rw [if_neg fun hk => hother (.inl hk), if_neg fun hk => hother (.inr hk)] at hstay
    exact toOption_read_newline hstay
  · rintro ⟨s, hruns⟩
    have hrefuse := hbehind s hruns
    rw [read_of_areRead hread' hruns]
    constructor
    · intro hk
      rw [if_pos hk] at hrefuse
      exact read_newline_of_wanted hrefuse
    · rintro rfl
      exact read_newline_of_wanted hrefuse

/-- A package clause and an import, with some text between the keyword and the literal of the
import. -/
def importAfter (gap : String) : String :=
  "package p;" ++ String.ofList (Lexeme.name "import".toList).text ++ gap

/-- The lexemes of a package clause. -/
def clauseLexemes : List Lexeme := [.name "package".toList, .blank ' ', .name ['p'], .mark ';']

theorem ofSource_lineBreak_import :
    Lexeme.AreRead (Cursor.ofSource (importAfter "`a`")).rest
        (clauseLexemes ++ [.name "import".toList]) "`a`".toList ∧
      (ofSource (importAfter "\n" ++ "`a`")).toOption = some ⟨"p", ["a"]⟩ := by
  have hsource : (Cursor.ofSource (importAfter "`a`")).rest =
      'p' :: ['a', 'c', 'k', 'a', 'g', 'e', ' ', 'p', ';', 'i', 'm', 'p', 'o', 'r', 't', '`', 'a',
        '`'] := by
    decide
  have hpackage : Lexeme.read 'p' ['a', 'c', 'k', 'a', 'g', 'e', ' ', 'p', ';', 'i', 'm', 'p', 'o',
      'r', 't', '`', 'a', '`'] =
      .ok (.name "package".toList, ' ' :: ['p', ';', 'i', 'm', 'p', 'o', 'r', 't', '`', 'a', '`']) := by
    decide
  have hname : Lexeme.read 'p' [';', 'i', 'm', 'p', 'o', 'r', 't', '`', 'a', '`'] =
      .ok (.name ['p'], ';' :: ['i', 'm', 'p', 'o', 'r', 't', '`', 'a', '`']) := by
    decide
  have himport : Lexeme.read 'i' ['m', 'p', 'o', 'r', 't', '`', 'a', '`'] =
      .ok (.name "import".toList, "`a`".toList) := by
    decide
  have hread : Lexeme.AreRead (Cursor.ofSource (importAfter "`a`")).rest
      (clauseLexemes ++ [.name "import".toList]) "`a`".toList := by
    rw [hsource]
    exact .cons hpackage (.cons rfl (.cons hname (.cons rfl (.cons himport .nil))))
  have hother : ¬ (TokenKind.name "import" = .name "package" ∨ TokenKind.name "import" = .dot) := by
    decide
  have hheader : (ofSource (importAfter "`a`")).toOption = some ⟨"p", ["a"]⟩ := by decide +kernel
  obtain ⟨hsame, -⟩ := ofSource_lineBreak hread rfl (by decide)
  exact ⟨hread, (hsame fun hk => absurd hk hother).trans hheader⟩

/-- A line break behind the keyword of a package clause, or behind the dot of an import, is refused.
-/
theorem ofSource_lineBreak_refused :
    GoesOn [.name "package".toList] ∧
      ofSource ("package" ++ " p") = .ok ⟨"p", []⟩ ∧
      ofSource ("package" ++ "\n" ++ " p") =
        .error (.unexpected .packageName (some .newline) 1) ∧
      ofSource ("package p;import ." ++ "`a`") = .ok ⟨"p", ["a"]⟩ ∧
      ofSource ("package p;import ." ++ "\n" ++ "`a`") =
        .error (.unexpected .importPath (some .newline) 1) := by
  refine ⟨⟨⟨.packageName, ⟨"", []⟩⟩, .cons rfl .nil⟩, ?_⟩
  decide +kernel

end Header

end VendorBuild
