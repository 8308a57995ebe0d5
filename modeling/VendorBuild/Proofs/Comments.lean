import VendorBuild.Proofs.Stepwise

/-!
# Comments

A comment separates what stands around it and may end a line, and it does nothing else. So it can be
taken out of a source if it leaves a blank, or the line breaks it holds; a comment up to the end of
its line leaves nothing, because the line break is not part of it. A comment with many line breaks
is one token where it leaves many, but behind a line break another one leaves the automaton where it
is.

Results:
* `Header.read_substitute`: what a comment leaves is read like the comment.
* `Header.read_flatMap_substitute`: this holds of a comment anywhere in a text.
* `Header.ofSource_substitute`: a source has the same header, or the same fault, without a comment.
-/

namespace VendorBuild

namespace Lexeme

/-- What a comment leaves in a source from which it is taken out. Any other lexeme stays. -/
def substitute : Lexeme → List Char
  | lineComment _ => []
  | blockComment body => if '\n' ∈ body then List.replicate (body.count '\n') '\n' else [' ']
  | l => l.text

/-- Lexemes that end in front of a slash end in front of white space. -/
theorem EndsBefore.of_slash {l : Lexeme} {next : Option Char} (h : l.EndsBefore (some '/'))
    (hnext : ∀ d ∈ next, d = '\n' ∨ d = ' ') : l.EndsBefore next := by
  cases l with
  | lineComment body => exact absurd (h '/' rfl) (by decide)
  | name text =>
    intro d hd
    obtain rfl | rfl := hnext d hd
    · exact isNamePart_newline
    · decide
  | mark c =>
    intro hc d hd
    obtain rfl | rfl := hnext d hd <;> decide
  | _ => trivial

theorem substitute_cases {l : Lexeme} {left : List Char} (hend : l.EndsBefore left.head?) :
    l.substitute = l.text ∨
      (l.text ++ left).head? = some '/' ∧
        ∀ d ∈ (l.substitute ++ left).head?, d = '\n' ∨ d = ' ' := by
  cases l with
  | lineComment body => exact .inr ⟨rfl, fun d hd => .inl (hend d hd)⟩
  | blockComment body =>
    refine .inr ⟨rfl, fun d hd => ?_⟩
    rw [substitute] at hd
    split at hd
    · rename_i hmem
      obtain ⟨n, hn⟩ := Nat.exists_eq_succ_of_ne_zero (List.count_pos_iff.2 hmem).ne'
      rw [hn] at hd
      exact .inl (Option.some.inj hd).symm
    · exact .inr (Option.some.inj hd).symm
  | _ => exact .inl rfl

/-- A lexeme in front of a comment ends before what the comment leaves as well. -/
theorem endsBefore_substitute {k l : Lexeme} {left : List Char} (hend : l.EndsBefore left.head?)
    (h : k.EndsBefore (l.text ++ left).head?) : k.EndsBefore (l.substitute ++ left).head? := by
  obtain heq | ⟨hslash, hspace⟩ := substitute_cases hend
  · rwa [heq]
  · rw [hslash] at h
    exact h.of_slash hspace

end Lexeme

namespace Progress

theorem step_newline_again {s s' : Progress} (h : s.step (some .newline) = .ok (some s')) :
    s'.step (some .newline) = .ok (some s') := by
  obtain ⟨place, header⟩ := s
  cases place <;> cases h <;> rfl

end Progress

namespace Cursor

theorem exists_ofSource_append (front : List Char) :
    ∃ front', ∀ more : List Char, more.head? ≠ some '\uFEFF' →
      ofSource (String.ofList (front ++ more)) = ⟨1, front' ++ more⟩ := by
  cases front with
  | nil => exact ⟨[], fun more hmore => ofSource_of_head? hmore⟩
  | cons c front =>
    by_cases hc : c = '\uFEFF'
    · subst hc
      exact ⟨front, fun more _ => ofSource_mark (front ++ more)⟩
    · exact ⟨c :: front, fun more _ => ofSource_of_head? fun h => hc (Option.some.inj h)⟩

end Cursor

namespace Header

variable {s : Progress} {line : Nat}

theorem read_replicate_newline (h : s.step (some .newline) = .ok (some s)) (n : Nat)
    (left : List Char) :
    read s ⟨line, List.replicate n '\n' ++ left⟩ = read s ⟨line + n, left⟩ := by
  induction n generalizing line with
  | zero => rfl
  | succ n ih =>
    have hread : Lexeme.read '\n' (List.replicate n '\n' ++ left) =
        .ok (.newline, List.replicate n '\n' ++ left) := rfl
    rw [List.replicate_succ, List.cons_append, read_cons hread, Lexeme.token?, pass_of_move h, ih,
      Lexeme.lineBreaks_newline, Nat.add_right_comm, Nat.add_assoc]

theorem read_substitute {c : Char} {rest left : List Char} {l : Lexeme}
    (h : Lexeme.read c rest = .ok (l, left)) :
    read s ⟨line, l.substitute ++ left⟩ = read s ⟨line, c :: rest⟩ := by
  cases l with
  | lineComment body => exact (read_of_lineComment h).symm
  | blockComment body =>
    rw [read_cons h, Lexeme.lineBreaks_blockComment, Lexeme.substitute, Lexeme.token?]
    by_cases hmem : '\n' ∈ body
    · obtain ⟨n, hn⟩ := Nat.exists_eq_succ_of_ne_zero (List.count_pos_iff.2 hmem).ne'
      have hread : Lexeme.read '\n' (List.replicate n '\n' ++ left) =
          .ok (.newline, List.replicate n '\n' ++ left) := rfl
      rw [if_pos hmem, if_pos hmem, hn, List.replicate_succ, List.cons_append, read_cons hread]
      refine pass_congr (fun hnone => by cases hnone) fun kind s' hkind hstep => ?_
      obtain rfl : kind = .newline := (Option.some.inj hkind).symm
      rw [read_replicate_newline (Progress.step_newline_again hstep), Lexeme.lineBreaks_newline,
        Nat.add_right_comm, Nat.add_assoc]
    · have hread : Lexeme.read ' ' left = .ok (.blank ' ', left) := rfl
      rw [if_neg hmem, if_neg hmem, List.count_eq_zero.2 hmem, List.singleton_append,
        read_cons hread]
      rfl
  | _ => exact congrArg (fun text => read s ⟨line, text⟩) (Lexeme.text_append_of_read h)

/-- What a comment leaves is read like the comment, wherever in a text the comment is met. -/
theorem read_flatMap_substitute {text left : List Char} {before : List Lexeme} {l : Lexeme}
    (h : Lexeme.AreRead text (before ++ [l]) left) :
    read s ⟨line, before.flatMap Lexeme.text ++ (l.substitute ++ left)⟩ = read s ⟨line, text⟩ := by
  induction before generalizing text s line with
  | nil =>
    cases h with
    | cons hread hrest =>
      cases hrest
      exact read_substitute hread
  | cons k before ih =>
    cases h with
    | @cons c rest more _ _ _ hread hrest =>
      have hrest : Lexeme.AreRead more (before ++ [l]) left := hrest
      obtain ⟨hspelled, hend, -⟩ := Lexeme.read_eq_ok_iff_isSpelled.1 hread
      obtain ⟨_, _, hlast⟩ := hrest.exists_read
      have hmore := hrest.flatMap_text_append
      rw [List.flatMap_append, List.append_assoc, List.flatMap_singleton] at hmore
      -- the lexeme in front ends before what the comment leaves as it does before the comment
      have hend' : k.EndsBefore
          (before.flatMap Lexeme.text ++ (l.substitute ++ left)).head? := by
        rw [← hmore] at hend
        cases hbefore : before.flatMap Lexeme.text with
        | nil =>
          rw [hbefore] at hend
          exact Lexeme.endsBefore_substitute (Lexeme.read_eq_ok_iff_isSpelled.1 hlast).2.1 hend
        | cons d cs =>
          rw [hbefore] at hend
          exact hend
      obtain ⟨c', rest', hsource, hread'⟩ := hspelled.exists_read hend'
      rw [List.flatMap_cons, List.append_assoc, hsource, read_cons hread', read_cons hread]
      exact pass_congr (fun _ => ih hrest) fun _ _ _ _ => ih hrest

/-- A source has the same header, or the same fault, with a blank or line breaks in the place of a
comment, or nothing in the place of one that ends with its line. -/
theorem ofSource_substitute {front behind : String} {before : List Lexeme} {comment : Lexeme}
    (h : Lexeme.AreRead
      (Cursor.ofSource (front ++ String.ofList comment.text ++ behind)).rest
      (before ++ [comment]) behind.toList) :
    ofSource (front ++ String.ofList comment.substitute ++ behind) =
      ofSource (front ++ String.ofList comment.text ++ behind) := by
  obtain ⟨_, _, hlast⟩ := h.exists_read
  obtain heq | ⟨hslash, hspace⟩ :=
    Lexeme.substitute_cases (Lexeme.read_eq_ok_iff_isSpelled.1 hlast).2.1
  · rw [heq]
  · obtain ⟨front', hfront⟩ := Cursor.exists_ofSource_append front.toList
    have hcomment := hfront (comment.text ++ behind.toList) (by rw [hslash]; decide)
    have hsubstitute := hfront (comment.substitute ++ behind.toList) fun hmark => by
      obtain he | he := hspace _ hmark <;> exact absurd he (by decide)
    have hsource : ∀ cs : List Char, front ++ String.ofList cs ++ behind =
        String.ofList (front.toList ++ (cs ++ behind.toList)) := by
      simp [String.append_assoc]
    rw [hsource, hcomment] at h
    have hbefore := h.flatMap_text_append
    rw [List.flatMap_append, List.flatMap_singleton, List.append_assoc,
      List.append_cancel_right_eq] at hbefore
    rw [ofSource, ofSource, hsource, hsource, hcomment, hsubstitute, ← hbefore]
    rw [← hbefore] at h
    exact read_flatMap_substitute h

/-- A package clause with a gap between its keyword and its name. -/
def clauseWithGap (gap : List Char) : String := "package" ++ String.ofList gap ++ "p"

theorem ofSource_clauseWithGap :
    Lexeme.AreRead
        (Cursor.ofSource (clauseWithGap (Lexeme.blockComment ['\n', '\n']).text)).rest
        ([.name "package".toList] ++ [.blockComment ['\n', '\n']]) "p".toList ∧
      ofSource (clauseWithGap (Lexeme.blockComment ['\n', '\n']).substitute) =
        .error (.unexpected .packageName (some .newline) 1) := by
  have hsource : (Cursor.ofSource (clauseWithGap (Lexeme.blockComment ['\n', '\n']).text)).rest =
      'p' :: ['a', 'c', 'k', 'a', 'g', 'e', '/', '*', '\n', '\n', '*', '/', 'p'] := by
    decide
  have hname : Lexeme.read 'p' ['a', 'c', 'k', 'a', 'g', 'e', '/', '*', '\n', '\n', '*', '/', 'p'] =
      .ok (.name "package".toList, '/' :: ['*', '\n', '\n', '*', '/', 'p']) := by
    decide
  have hcomment : Lexeme.read '/' ['*', '\n', '\n', '*', '/', 'p'] =
      .ok (.blockComment ['\n', '\n'], "p".toList) := by
    decide
  have hread : Lexeme.AreRead
      (Cursor.ofSource (clauseWithGap (Lexeme.blockComment ['\n', '\n']).text)).rest
      ([.name "package".toList] ++ [.blockComment ['\n', '\n']]) "p".toList := by
    rw [hsource]
    exact .cons hname (.cons hcomment .nil)
  refine ⟨hread, ?_⟩
  rw [clauseWithGap, ofSource_substitute hread]
  decide +kernel

end Header

end VendorBuild
