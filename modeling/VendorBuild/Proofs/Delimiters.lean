import VendorBuild.Proofs.Stepwise

/-!
# Where literals end

A literal is cut out of its source before anyone asks for its value. The cut takes a backslash
together with one character behind it, the value takes the whole escape, which may be longer. Both
come to the same closing quote, because whatever else an escape holds is a plain character: behind
an item of the value, what is left of the body is still one that the cut would take. So a literal
that was cut out can lack a value only for what its escapes say, and a text that has a value is cut
out whole, whatever comes behind it.

Results:
* `Literal.IsItem.isQuotedBody_append_iff`: an item in front of a body leaves it as it is.
* `Literal.mem_escapeFaults_of_quotedValue`: what can be wrong with a body that was cut out.
* `Literal.exists_lexeme_of_value`: a text that has a value is spelled as one lexeme.
* `Cursor.literals_agree`: literals that are cut out have values, their escapes apart, and literals
  that have values are cut out.
-/

namespace VendorBuild

namespace Literal

/-- What can be wrong with an escape, or with the bytes that the escapes make. -/
def escapeFaults : List LiteralFault :=
  [.hexEscape, .octalEscape, .octalRange, .codePointEscape, .notCodePoint, .unknownEscape, .notUtf8]

/-! ## Items of bodies that are cut out -/

theorem isQuotedBody_cons_iff {c : Char} {rest : List Char} (hc : IsPlain c) :
    IsQuotedBody (c :: rest) ↔ IsQuotedBody rest := by
  constructor
  · intro h
    cases h with
    | plain _ hrest => exact hrest
    | escaped _ _ => exact absurd rfl hc.2.1
  · exact .plain hc

theorem isQuotedBody_append_iff {cs rest : List Char} (h : ∀ c ∈ cs, IsPlain c) :
    IsQuotedBody (cs ++ rest) ↔ IsQuotedBody rest := by
  induction cs with
  | nil => rfl
  | cons c cs ih =>
    obtain ⟨hc, hcs⟩ := List.forall_mem_cons.1 h
    rw [List.cons_append, isQuotedBody_cons_iff hc, ih hcs]

theorem isQuotedBody_escaped_iff {c : Char} {rest : List Char} (hc : c ≠ '\n') :
    IsQuotedBody ('\\' :: c :: rest) ↔ IsQuotedBody rest := by
  constructor
  · intro h
    cases h with
    | plain hbackslash _ => exact absurd rfl hbackslash.2.1
    | escaped _ hrest => exact hrest
  · exact .escaped hc

/-- An item in front of a body leaves it as it is. -/
theorem IsItem.isQuotedBody_append_iff {item rest : List Char} {bytes : List UInt8}
    (h : IsItem item bytes) : IsQuotedBody (item ++ rest) ↔ IsQuotedBody rest := by
  cases h with
  | plain hc => exact isQuotedBody_cons_iff hc
  | escape hescape =>
    obtain ⟨c, digits, rfl, hc, hdigits⟩ := hescape.eq_cons
    rw [List.cons_append, List.cons_append, isQuotedBody_escaped_iff hc,
      Literal.isQuotedBody_append_iff hdigits]

/-- What spells the bytes of a value is cut out of a source whole. -/
theorem Spells.isQuotedBody {body : List Char} {bytes : List UInt8} (h : Spells body bytes) :
    IsQuotedBody body := by
  induction h with
  | nil => exact .nil
  | cons hitem _ ih => exact hitem.isQuotedBody_append_iff.2 ih

/-! ## Faults of bodies that are cut out -/

section

variable {fault : LiteralFault} {c : Char} {body rest : List Char}

theorem mem_escapeFaults_of_readEscape (h : readEscape c rest = .error fault) :
    fault ∈ escapeFaults := by
  unfold readEscape at h
  split at h
  · cases h
  · split at h
    · split at h <;> cases h
      decide
    · split at h
      · split at h
        · unfold codePointBytes at h
          split at h <;> cases h
          decide
        · cases h
          decide
      · split at h
        · cases h
          decide
        · split at h
          · split at h <;> cases h
            decide
          · cases h
            decide

theorem mem_escapeFaults_of_readItem (hbody : IsQuotedBody (c :: rest))
    (h : readItem c rest = .error fault) : fault ∈ escapeFaults := by
  unfold readItem at h
  cases hbody with
  | plain hc =>
    rw [if_neg hc.1, if_neg hc.2.1] at h
    cases h
  | escaped _ _ => exact mem_escapeFaults_of_readEscape h

theorem mem_escapeFaults_of_itemBytes (hbody : IsQuotedBody body)
    (h : itemBytes body = .error fault) : fault ∈ escapeFaults := by
  fun_induction itemBytes body with
  | case1 => cases h
  | case2 c rest fault' hread =>
    cases h
    exact mem_escapeFaults_of_readItem hbody hread
  | case3 c rest front left hread ih =>
    have hc : c ≠ '\n' := (List.ne_of_not_mem_cons hbody.newline_notMem).symm
    obtain ⟨item, hitem, happend⟩ := (readItem_eq_ok_iff hc).1 hread
    rw [happend, hitem.isQuotedBody_append_iff] at hbody
    cases hleft : itemBytes left with
    | error fault' =>
      rw [hleft] at h
      cases h
      exact ih hbody hleft
    | ok more =>
      rw [hleft] at h
      cases h

/-- A body that was cut out has a value, or there is something wrong with its escapes. -/
theorem mem_escapeFaults_of_quotedValue (hbody : IsQuotedBody body)
    (h : quotedValue body = .error fault) : fault ∈ escapeFaults := by
  rw [quotedValue_eq, if_neg hbody.newline_notMem, itemsValue] at h
  cases hbytes : itemBytes body with
  | error fault' =>
    rw [hbytes] at h
    cases h
    exact mem_escapeFaults_of_itemBytes hbody hbytes
  | ok bytes =>
    rw [hbytes] at h
    simp only [bind, Except.bind] at h
    split at h <;> cases h
    decide

end

/-! ## Lexemes that are literals -/

theorem text_of_token? {l : Lexeme} {literal : String} (h : l.token? = some (.literal literal)) :
    l.text = literal.toList ∧
      ((∃ body, l = .quotedLiteral body) ∨ ∃ body, l = .rawLiteral body) := by
  unfold Lexeme.token? at h
  split at h
  · cases h
  · cases h
  · cases h
  · split at h <;> cases h
  · cases h
  · cases h
    exact ⟨String.toList_ofList.symm, .inl ⟨_, rfl⟩⟩
  · cases h
    exact ⟨String.toList_ofList.symm, .inr ⟨_, rfl⟩⟩
  · unfold TokenKind.ofMark at h
    split_ifs at h <;> cases h

/-- A literal that was cut out has a value unless it is quoted and something is wrong with its
escapes. -/
theorem value_of_isSpelled {l : Lexeme} {literal : String} (hspelled : l.IsSpelled)
    (htoken : l.token? = some (.literal literal)) :
    (∃ v, value literal = .ok v) ∨
      literal.toList.head? = some '"' ∧ ∃ fault ∈ escapeFaults, value literal = .error fault := by
  obtain ⟨htext, ⟨body, rfl⟩ | ⟨body, rfl⟩⟩ := text_of_token? htoken
  · cases hspelled with
    | quotedLiteral hbody =>
      rw [value_of_quoted htext.symm]
      cases hvalue : quotedValue body with
      | ok v => exact .inl ⟨v, rfl⟩
      | error fault =>
        refine .inr ⟨?_, fault, mem_escapeFaults_of_quotedValue hbody hvalue, rfl⟩
        rw [← htext]
        rfl
  · cases hspelled with
    | rawLiteral hbody =>
      rw [value_of_raw htext.symm, rawValue, if_neg hbody]
      exact .inl ⟨_, rfl⟩

theorem exists_lexeme_of_value {literal v : String} (h : value literal = .ok v) :
    ∃ l : Lexeme, l.IsSpelled ∧ (∀ next, l.EndsBefore next) ∧ l.text = literal.toList ∧
      l.token? = some (.literal literal) := by
  obtain ⟨body, htext, hbody, -⟩ | ⟨body, htext, hspells⟩ := (value_eq_ok_iff literal v).1.1 h
  · refine ⟨.rawLiteral body, .rawLiteral hbody, fun _ => trivial, htext.symm, ?_⟩
    rw [Lexeme.token?, Lexeme.text, ← htext, String.ofList_toList]
  · refine ⟨.quotedLiteral body, .quotedLiteral hspells.isQuotedBody, fun _ => trivial,
      htext.symm, ?_⟩
    rw [Lexeme.token?, Lexeme.text, ← htext, String.ofList_toList]

end Literal

namespace Cursor

/-- Cutting literals out and giving them a value agree on where they end. A literal token has a
value, unless it is quoted and something is wrong with its escapes or with the bytes they make. And
a text that has a value is one token wherever it stands, whatever comes behind it. -/
theorem literals_agree (literal : String) :
    (∀ (cur after : Cursor) (t : Token), cur.next = .token t after → t.kind = .literal literal →
      (∃ v, Literal.value literal = .ok v) ∨
        literal.toList.head? = some '"' ∧
          ∃ fault ∈ Literal.escapeFaults, Literal.value literal = .error fault) ∧
    ∀ (v : String) (line : Nat) (rest : List Char), Literal.value literal = .ok v →
      (mk line (literal.toList ++ rest)).next =
        .token ⟨.literal literal, line⟩ ⟨line + literal.toList.count '\n', rest⟩ := by
  constructor
  · intro cur after t hnext hkind
    obtain ⟨l, hspelled, htoken⟩ := exists_isSpelled_of_readToken hnext
    exact Literal.value_of_isSpelled hspelled (htoken.trans (congrArg some hkind))
  · intro v line rest hvalue
    obtain ⟨l, hspelled, hends, htext, htoken⟩ := Literal.exists_lexeme_of_value hvalue
    obtain ⟨c, cs, hsource, hread⟩ := hspelled.exists_read (hends rest.head?)
    rw [next, ← htext, hsource, readToken_of_token? hread htoken, Lexeme.lineBreaks]

/-- Behind two backslashes, a backslash with a quote and an escape that there is not. -/
def oddLiteral : String := "\"\\\\\\\"\\q\""

theorem literals_agree_oddLiteral :
    (mk 1 (oddLiteral.toList ++ ['"'])).next = .token ⟨.literal oddLiteral, 1⟩ ⟨1, ['"']⟩ ∧
      ((∃ v, Literal.value oddLiteral = .ok v) ∨
        oddLiteral.toList.head? = some '"' ∧
          ∃ fault ∈ Literal.escapeFaults, Literal.value oddLiteral = .error fault) ∧
      Literal.value "`a\n`" = .ok "a\n" ∧
      (mk 1 ("`a\n`".toList ++ ['`'])).next =
        .token ⟨.literal "`a\n`", 1⟩ ⟨1 + "`a\n`".toList.count '\n', ['`']⟩ := by
  have hnext : (mk 1 (oddLiteral.toList ++ ['"'])).next =
      .token ⟨.literal oddLiteral, 1⟩ ⟨1, ['"']⟩ := by
    cbv
  have hvalue : Literal.value "`a\n`" = .ok "a\n" := by decide
  exact ⟨hnext, (literals_agree oddLiteral).1 _ _ _ hnext rfl, hvalue,
    (literals_agree "`a\n`").2 _ 1 ['`'] hvalue⟩

end Cursor

end VendorBuild
