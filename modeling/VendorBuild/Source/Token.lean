import VendorBuild.Source.Lexeme

/-!
# Tokens of a Go source

Only the tokens that a package clause or an import declaration can hold are told apart. A line break
is a token, also one that hides in a comment; other white space and comments are passed over. Tokens
are read on demand, one at a time, from the place reached in the source, so what no one asks for is
never looked at.

Results:
* `Cursor.length_of_next`: every token read leaves less of the source.
-/

namespace VendorBuild

/-- What a token is. -/
inductive TokenKind where
  /-- A name or keyword. -/
  | name (text : String)
  /-- A string literal, its quotes included. -/
  | literal (text : String)
  | semicolon
  /-- A line break, or a comment that holds one. -/
  | newline
  | leftParen
  | rightParen
  | dot
  | other (c : Char)
deriving DecidableEq

/-- A token and the line, counted from one, on which it starts. -/
structure Token where
  kind : TokenKind
  line : Nat
deriving DecidableEq

/-- How a token is named in a message. -/
def TokenKind.shown : TokenKind → String
  | name text => "'" ++ text ++ "'"
  | literal text => text
  | semicolon => "';'"
  | newline => "newline"
  | leftParen => "'('"
  | rightParen => "')'"
  | dot => "'.'"
  | other c => "'" ++ String.singleton c ++ "'"

/-- The token of a character that stands for itself. -/
def TokenKind.ofMark (c : Char) : TokenKind :=
  if c = ';' then .semicolon
  else if c = '(' then .leftParen
  else if c = ')' then .rightParen
  else if c = '.' then .dot
  else .other c

/-- The token that a lexeme is, none for white space and for comments on one line. -/
def Lexeme.token? : Lexeme → Option TokenKind
  | newline => some .newline
  | blank _ => none
  | lineComment _ => none
  | blockComment body => if '\n' ∈ body then some .newline else none
  | name text => some (.name (String.ofList text))
  | quotedLiteral body => some (.literal (String.ofList (quotedLiteral body).text))
  | rawLiteral body => some (.literal (String.ofList (rawLiteral body).text))
  | mark c => some (.ofMark c)

/-- A place in a source: the line it is on and the text from there. -/
structure Cursor where
  line : Nat
  rest : List Char

/-- What reading on from a place finds. -/
inductive Reading where
  /-- A token, and the place behind it. -/
  | token (t : Token) (after : Cursor)
  /-- The end of the source, which lies on the given line. -/
  | finished (line : Nat)
  /-- A construct that starts on the given line and does not end. -/
  | unclosed (what : Unclosed) (line : Nat)

namespace Cursor

/-- The beginning of a source, behind the byte order mark if there is one. -/
def ofSource (source : String) : Cursor :=
  match source.toList with
  | '\uFEFF' :: rest => ⟨1, rest⟩
  | rest => ⟨1, rest⟩

/-- Reads the next token from text on a given line. -/
def readToken (line : Nat) : List Char → Reading
  | [] => .finished line
  | c :: rest =>
    match _h : Lexeme.read c rest with
    | .error what => .unclosed what line
    | .ok (lexeme, left) =>
      match lexeme.token? with
      | some kind => .token ⟨kind, line⟩ ⟨line + lexeme.lineBreaks, left⟩
      | none => readToken (line + lexeme.lineBreaks) left
termination_by source => source.length
decreasing_by exact Lexeme.length_of_read _h

/-- Reads the next token. -/
def next (cur : Cursor) : Reading := readToken cur.line cur.rest

theorem length_of_readToken {line : Nat} {source : List Char} {t : Token} {after : Cursor}
    (h : readToken line source = .token t after) : after.rest.length < source.length := by
  fun_induction readToken line source with
  | case1 => cases h
  | case2 => cases h
  | case3 line c rest lexeme left hread kind hkind =>
    cases h
    exact Lexeme.length_of_read hread
  | case4 line c rest lexeme left hread hkind ih =>
    exact Nat.lt_trans (ih h) (Lexeme.length_of_read hread)

/-- Behind a token there is less left to read. -/
theorem length_of_next {cur : Cursor} {t : Token} {after : Cursor}
    (h : cur.next = .token t after) : after.rest.length < cur.rest.length :=
  length_of_readToken h

end Cursor

end VendorBuild
