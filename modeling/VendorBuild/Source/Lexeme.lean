import VendorBuild.Text.Alphabetic
import VendorBuild.Text.Numeric
import VendorBuild.Text.Blank

/-!
# Lexemes of Go source text

A source is cut into lexemes from the front: line breaks, other white space, comments, names, string
literals, and single characters for everything else. Nothing is left out, so the lexemes of a source
joined together are the source. Only comments and string literals can fail to end.

Results:
* `Lexeme.text_append_of_read`: the lexeme read and what is left make up the source.
* `Lexeme.length_of_read`: what is left is shorter.
-/

namespace VendorBuild

open Text

/-- A construct that the end of the source, or of the line, cuts off. -/
inductive Unclosed where
  | comment
  | quotedLiteral
  | rawLiteral
deriving DecidableEq

/-- What is said of a construct that does not end. -/
def Unclosed.message : Unclosed → String
  | .comment => "comment not terminated"
  | .quotedLiteral => "string literal not terminated"
  | .rawLiteral => "raw string literal not terminated"

/-- A piece of source text. -/
inductive Lexeme where
  /-- A line feed. -/
  | newline
  /-- Any other white space character. -/
  | blank (c : Char)
  /-- A comment up to the end of its line, without the two slashes. -/
  | lineComment (body : List Char)
  /-- A comment between delimiters, without them. -/
  | blockComment (body : List Char)
  /-- A name or keyword. -/
  | name (text : List Char)
  /-- A literal between double quotes, without them. -/
  | quotedLiteral (body : List Char)
  /-- A literal between back quotes, without them. -/
  | rawLiteral (body : List Char)
  /-- A character that belongs to none of these. -/
  | mark (c : Char)
deriving DecidableEq

/-- Whether a name can start with a character. -/
def isNameStart (c : Char) : Bool := c = '_' || isAlphabetic c

/-- Whether a name can go on with a character. -/
def isNamePart (c : Char) : Bool := isNameStart c || isNumeric c

/-- Cuts a text behind the first end of a comment: the body before the delimiter, and the rest. -/
def splitComment : List Char → Option (List Char × List Char)
  | [] => none
  | '*' :: '/' :: rest => some ([], rest)
  | c :: rest => (splitComment rest).map fun (body, left) => (c :: body, left)

/-- Cuts a text behind the first double quote that no backslash precedes. There is none if the line
    ends first, a backslash before the line feed notwithstanding. -/
def splitQuoted : List Char → Option (List Char × List Char)
  | [] => none
  | '"' :: rest => some ([], rest)
  | '\n' :: _ => none
  | '\\' :: c :: rest =>
    if c = '\n' then none else (splitQuoted rest).map fun (body, left) => ('\\' :: c :: body, left)
  | c :: rest => (splitQuoted rest).map fun (body, left) => (c :: body, left)

/-- Cuts a text behind the first back quote. -/
def splitRaw (text : List Char) : Option (List Char × List Char) :=
  match text.dropWhile (· ≠ '`') with
  | [] => none
  | _ :: left => some (text.takeWhile (· ≠ '`'), left)

namespace Lexeme

/-- The source text of a lexeme. -/
def text : Lexeme → List Char
  | newline => ['\n']
  | blank c => [c]
  | lineComment body => '/' :: '/' :: body
  | blockComment body => '/' :: '*' :: (body ++ ['*', '/'])
  | name text => text
  | quotedLiteral body => '"' :: (body ++ ['"'])
  | rawLiteral body => '`' :: (body ++ ['`'])
  | mark c => [c]

/-- The number of line feeds in a lexeme. -/
def lineBreaks (l : Lexeme) : Nat := l.text.count '\n'

/-- Reads one lexeme from a source that starts with `c`, and what is left behind it. -/
def read (c : Char) (rest : List Char) : Except Unclosed (Lexeme × List Char) :=
  if c = '\n' then .ok (.newline, rest)
  else if isBlank c then .ok (.blank c, rest)
  else if c = '/' ∧ rest.head? = some '/' then
    .ok (.lineComment (rest.tail.takeWhile (· ≠ '\n')), rest.tail.dropWhile (· ≠ '\n'))
  else if c = '/' ∧ rest.head? = some '*' then
    match splitComment rest.tail with
    | some (body, left) => .ok (.blockComment body, left)
    | none => .error .comment
  else if c = '"' then
    match splitQuoted rest with
    | some (body, left) => .ok (.quotedLiteral body, left)
    | none => .error .quotedLiteral
  else if c = '`' then
    match splitRaw rest with
    | some (body, left) => .ok (.rawLiteral body, left)
    | none => .error .rawLiteral
  else if isNameStart c then
    .ok (.name (c :: rest.takeWhile isNamePart), rest.dropWhile isNamePart)
  else .ok (.mark c, rest)

/-! ## Nothing is lost -/

theorem append_of_splitComment {text body left : List Char}
    (h : splitComment text = some (body, left)) : body ++ '*' :: '/' :: left = text := by
  fun_induction splitComment text generalizing body left with
  | case1 => cases h
  | case2 rest => cases h; rfl
  | case3 c rest _ ih =>
    obtain ⟨⟨body', left'⟩, h', he⟩ := Option.map_eq_some_iff.1 h
    cases he
    rw [List.cons_append, ih h']

theorem append_of_splitQuoted {text body left : List Char}
    (h : splitQuoted text = some (body, left)) : body ++ '"' :: left = text := by
  fun_induction splitQuoted text generalizing body left with
  | case1 => cases h
  | case2 rest => cases h; rfl
  | case3 => cases h
  | case4 => cases h
  | case5 c rest _ ih =>
    obtain ⟨⟨body', left'⟩, h', he⟩ := Option.map_eq_some_iff.1 h
    cases he
    rw [List.cons_append, List.cons_append, ih h']
  | case6 c rest _ _ _ ih =>
    obtain ⟨⟨body', left'⟩, h', he⟩ := Option.map_eq_some_iff.1 h
    cases he
    rw [List.cons_append, ih h']

theorem append_of_splitRaw {text body left : List Char}
    (h : splitRaw text = some (body, left)) : body ++ '`' :: left = text := by
  unfold splitRaw at h
  split at h
  · cases h
  · rename_i q rest hd
    cases h
    have hq : q = '`' := by
      have := List.head?_dropWhile_not (· ≠ '`') text
      rw [hd] at this
      simpa using this
    subst hq
    rw [← hd, List.takeWhile_append_dropWhile]

theorem eq_cons_of_head? {rest : List Char} {c : Char} (h : rest.head? = some c) :
    rest = c :: rest.tail := by
  cases rest with
  | nil => cases h
  | cons d rest => cases h; rfl

/-- The lexeme read and what is left make up the source. -/
theorem text_append_of_read {c : Char} {rest left : List Char} {l : Lexeme}
    (h : read c rest = .ok (l, left)) : l.text ++ left = c :: rest := by
  unfold read at h
  split at h
  · rename_i hc
    cases h
    simp [text, hc]
  · split at h
    · cases h
      rfl
    · split at h
      · rename_i hc
        cases h
        rw [eq_cons_of_head? hc.2]
        simp [text, hc.1, List.takeWhile_append_dropWhile]
      · split at h
        · rename_i hc
          split at h
          · rename_i body left' hs
            cases h
            rw [eq_cons_of_head? hc.2, ← append_of_splitComment hs]
            simp [text, hc.1]
          · cases h
        · split at h
          · rename_i hc
            split at h
            · rename_i body left' hs
              cases h
              rw [← append_of_splitQuoted hs]
              simp [text, hc]
            · cases h
          · split at h
            · rename_i hc
              split at h
              · rename_i body left' hs
                cases h
                rw [← append_of_splitRaw hs]
                simp [text, hc]
              · cases h
            · split at h
              · cases h
                simp [text, List.takeWhile_append_dropWhile]
              · cases h
                rfl

/-- A lexeme that is read has at least one character. -/
theorem text_ne_nil_of_read {c : Char} {rest left : List Char} {l : Lexeme}
    (h : read c rest = .ok (l, left)) : l.text ≠ [] := by
  unfold read at h
  repeat' split at h
  all_goals cases h
  all_goals simp [text]

/-- What is left behind a lexeme is shorter than the source. -/
theorem length_of_read {c : Char} {rest left : List Char} {l : Lexeme}
    (h : read c rest = .ok (l, left)) : left.length < (c :: rest).length := by
  have hlen := congrArg List.length (text_append_of_read h)
  have hpos := List.length_pos_iff.2 (text_ne_nil_of_read h)
  rw [List.length_append] at hlen
  omega

end Lexeme

end VendorBuild
