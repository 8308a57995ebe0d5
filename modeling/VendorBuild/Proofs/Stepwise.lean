import VendorBuild.Proofs.Spelling
import VendorBuild.Source.Header

/-!
# Headers read lexeme by lexeme

Reading a header passes over the lexemes of the source one after the other. The automaton moves over
those that are tokens and stays where it is over the others, so the lexeme at the front of a source
and the place of the automaton settle from where reading goes on. Two sources can then be compared
one lexeme at a time, wherever in them the next token is.

Results:
* `Cursor.exists_isSpelled_of_readToken`: every token is spelled as a lexeme is.
* `Header.read_nil`: what reading comes to at the end of the source.
* `Header.read_of_error`: what it comes to at a construct that does not end.
* `Header.read_cons`: what it comes to at a lexeme.
-/

namespace VendorBuild

namespace Cursor

variable {line : Nat} {c : Char} {rest left : List Char} {l : Lexeme}

theorem readToken_of_error {what : Unclosed} (h : Lexeme.read c rest = .error what) :
    readToken line (c :: rest) = .unclosed what line := by
  rw [readToken]
  split <;> simp_all

theorem readToken_of_token? {kind : TokenKind} (h : Lexeme.read c rest = .ok (l, left))
    (hkind : l.token? = some kind) :
    readToken line (c :: rest) = .token ⟨kind, line⟩ ⟨line + l.lineBreaks, left⟩ := by
  rw [readToken]
  split <;> simp_all

theorem readToken_of_token?_eq_none (h : Lexeme.read c rest = .ok (l, left))
    (hkind : l.token? = none) :
    readToken line (c :: rest) = readToken (line + l.lineBreaks) left := by
  rw [readToken]
  split <;> simp_all

/-- A token is a lexeme that is spelled as its kind is. -/
theorem exists_isSpelled_of_readToken {line : Nat} {source : List Char} {t : Token}
    {after : Cursor} (h : readToken line source = .token t after) :
    ∃ l : Lexeme, l.IsSpelled ∧ l.token? = some t.kind := by
  fun_induction readToken line source with
  | case1 => cases h
  | case2 => cases h
  | case3 line c rest l left hread kind hkind =>
    cases h
    exact ⟨l, (Lexeme.read_eq_ok_iff_isSpelled.1 hread).1, hkind⟩
  | case4 line c rest l left hread hkind ih => exact ih h

theorem ofSource_of_head? {source : List Char} (h : source.head? ≠ some '\uFEFF') :
    ofSource (String.ofList source) = ⟨1, source⟩ := by
  unfold ofSource
  rw [String.toList_ofList]
  split
  · exact absurd rfl h
  · rfl

theorem ofSource_mark (source : List Char) :
    ofSource (String.ofList ('\uFEFF' :: source)) = ⟨1, source⟩ := by
  unfold ofSource
  rw [String.toList_ofList]
  rfl

end Cursor

namespace Header

/-- What reading comes to at a lexeme on a line, given the token that the lexeme is. From where the
automaton is behind the lexeme, `go` reads on. -/
def pass (s : Progress) (line : Nat) (token : Option TokenKind)
    (go : Progress → Except HeaderFault Header) : Except HeaderFault Header :=
  match token with
  | none => go s
  | some kind =>
    match s.step (some kind) with
    | .error refusal => .error (refusal.fault (some kind) line)
    | .ok none => .ok s.header
    | .ok (some s') => go s'

/-- What reading comes to at the end of the source. -/
def finish (s : Progress) (line : Nat) : Except HeaderFault Header :=
  match s.step none with
  | .error refusal => .error (refusal.fault none line)
  | .ok _ => .ok s.header

theorem read_eq (s : Progress) (cur : Cursor) :
    read s cur =
      match cur.next with
      | .unclosed what line => .error (.unclosed what line)
      | .finished line => finish s line
      | .token t after => pass s t.line (some t.kind) fun s' => read s' after := by
  rw [read]
  split <;> rename_i hnext <;> rw [hnext] <;> rfl

variable {s : Progress} {line : Nat} {c : Char} {rest left : List Char} {l : Lexeme}

/-- Only from where the automaton comes to over the token does reading go on. -/
theorem pass_congr {token : Option TokenKind} {go go' : Progress → Except HeaderFault Header}
    (hnone : token = none → go s = go' s)
    (hsome : ∀ kind s', token = some kind → s.step (some kind) = .ok (some s') → go s' = go' s') :
    pass s line token go = pass s line token go' := by
  cases token with
  | none => exact hnone rfl
  | some kind =>
    unfold pass
    dsimp only
    split
    · rfl
    · rfl
    · rename_i s' hstep
      exact hsome kind s' rfl hstep

theorem pass_of_move {kind : TokenKind} {s' : Progress}
    {go : Progress → Except HeaderFault Header} (h : s.step (some kind) = .ok (some s')) :
    pass s line (some kind) go = go s' := by
  simp only [pass, h]

theorem read_nil : read s ⟨line, []⟩ = finish s line := by
  rw [read_eq, Cursor.next, Cursor.readToken]

theorem read_of_error {what : Unclosed} (h : Lexeme.read c rest = .error what) :
    read s ⟨line, c :: rest⟩ = .error (.unclosed what line) := by
  rw [read_eq, Cursor.next, Cursor.readToken_of_error h]

/-- Reading passes the lexeme at the front of the source and goes on behind it. -/
theorem read_cons (h : Lexeme.read c rest = .ok (l, left)) :
    read s ⟨line, c :: rest⟩ =
      pass s line l.token? fun s' => read s' ⟨line + l.lineBreaks, left⟩ := by
  cases hkind : l.token? with
  | none =>
    rw [read_eq, Cursor.next, Cursor.readToken_of_token?_eq_none h hkind, pass, read_eq]
    rfl
  | some kind => rw [read_eq, Cursor.next, Cursor.readToken_of_token? h hkind]

/-- A comment on one line is passed over. -/
theorem read_of_lineComment {body : List Char}
    (h : Lexeme.read c rest = .ok (.lineComment body, left)) :
    read s ⟨line, c :: rest⟩ = read s ⟨line, left⟩ := by
  cases (Lexeme.read_eq_ok_iff_isSpelled.1 h).1 with
  | lineComment hbody =>
    rw [read_cons h, Lexeme.lineBreaks_lineComment hbody]
    rfl

end Header

end VendorBuild
