import VendorBuild.Source.ImportPath
import VendorBuild.Source.Token

/-!
# Headers of Go source files

The header of a file is its package clause and the import declarations that follow. It is read by an
automaton that moves from token to token: its place says what the grammar allows next. The first
token that starts anything but an import declaration completes the header, and nothing behind that
token is read.

Results:
* `Progress.step_none`: at the end of the source the automaton never asks for another token.
-/

namespace VendorBuild

/-- What a file declares before its first other declaration. -/
structure Header where
  packageName : String
  /-- The import paths in source order, repetitions included. -/
  imports : List String
deriving DecidableEq

/-- What the grammar asked for where another token, or none, was found. -/
inductive Expectation where
  | packageKeyword
  /-- A package name other than the blank one that was found. -/
  | nonBlankName
  | packageName
  | lineEnd
  | importPath
  | groupItemEnd
deriving DecidableEq

/-- What is said where an expectation is not met. -/
def Expectation.message : Expectation → String
  | packageKeyword => "expected 'package'"
  | nonBlankName => "invalid package name _"
  | packageName => "expected package name"
  | lineEnd => "expected ';' or newline"
  | importPath => "expected import path"
  | groupItemEnd => "expected ';' or ')' after import"

/-- Why a source has no header. -/
inductive HeaderFault where
  /-- On a line, a construct that does not end. -/
  | unclosed (what : Unclosed) (line : Nat)
  /-- On a line, a token that the grammar does not allow there, or none at the end of the source. -/
  | unexpected (wanted : Expectation) (found : Option TokenKind) (line : Nat)
  /-- A literal that spells no import path. -/
  | badImport (literal : String) (fault : LiteralFault)
deriving DecidableEq

/-- What is said of a token, or of the end of the source, that was found. -/
def foundText : Option TokenKind → String
  | some kind => kind.shown
  | none => "EOF"

/-- What is said of a source at `place` that has no header. -/
def HeaderFault.message (place : String) : HeaderFault → String
  | unclosed what line => place ++ ":" ++ toString line ++ ": " ++ what.message
  | unexpected wanted found line =>
    place ++ ":" ++ toString line ++ ": " ++ wanted.message ++ ", found " ++ foundText found
  | badImport literal fault => "invalid import path literal " ++ literal ++ ": " ++ fault.message

/-- The words that are never names. -/
def keywords : List String :=
  ["break", "case", "chan", "const", "continue", "default", "defer", "else", "fallthrough", "for",
    "func", "go", "goto", "if", "import", "interface", "map", "package", "range", "return", "select",
    "struct", "switch", "type", "var"]

/-- Whether a word is never a name. -/
def isKeyword (word : String) : Bool := keywords.contains word

/-! ## The automaton -/

/-- Where in the grammar the next token stands. -/
inductive Place where
  /-- Before the package clause. -/
  | start
  /-- Behind the keyword of the package clause. -/
  | packageName
  /-- Behind the package clause or an import declaration, on the same line. -/
  | lineEnd
  /-- Where a declaration can start. -/
  | declaration
  /-- Behind the keyword of an import declaration. -/
  | importKeyword
  /-- Behind the name or dot that an import is given, in a group or not. -/
  | importPath (grouped : Bool)
  /-- In a group, where an import can start. -/
  | groupItem
  /-- In a group, behind an import. -/
  | groupItemEnd
deriving DecidableEq

/-- The place in the grammar and what has been declared so far. -/
structure Progress where
  place : Place
  header : Header
deriving DecidableEq

/-- Why the automaton stops without a header. -/
inductive Refusal where
  | wanted (what : Expectation)
  | badImport (literal : String) (fault : LiteralFault)
deriving DecidableEq

namespace Progress

/-- Where reading starts. -/
def start : Progress := ⟨.start, ⟨"", []⟩⟩

/-- The same header at another place. -/
def goTo (s : Progress) (place : Place) : Except Refusal (Option Progress) :=
  .ok (some { s with place })

/-- Takes the literal of an import. -/
def takeImport (s : Progress) (grouped : Bool) (literal : String) :
    Except Refusal (Option Progress) :=
  match ImportPath.ofLiteral literal with
  | .error fault => .error (.badImport literal fault)
  | .ok path =>
    .ok (some
      { place := if grouped then .groupItemEnd else .lineEnd
        header := { s.header with imports := s.header.imports ++ [path] } })

/-- Takes the first token of an import: the name or dot it is given, or its literal. -/
def startImport (s : Progress) (grouped : Bool) :
    Option TokenKind → Except Refusal (Option Progress)
  | some .dot => s.goTo (.importPath grouped)
  | some (.name word) =>
    if isKeyword word then .error (.wanted .importPath) else s.goTo (.importPath grouped)
  | some (.literal text) => s.takeImport grouped text
  | _ => .error (.wanted .importPath)

/-- Looks for the keyword of the package clause. -/
def startStep (s : Progress) : Option TokenKind → Except Refusal (Option Progress)
  | some .newline => s.goTo .start
  | some (.name word) =>
    if word = "package" then s.goTo .packageName else .error (.wanted .packageKeyword)
  | _ => .error (.wanted .packageKeyword)

/-- Takes the name of the package. -/
def packageNameStep (s : Progress) : Option TokenKind → Except Refusal (Option Progress)
  | some (.name word) =>
    if word = "_" then .error (.wanted .nonBlankName)
    else if isKeyword word then .error (.wanted .packageName)
    else .ok (some { place := .lineEnd, header := { s.header with packageName := word } })
  | _ => .error (.wanted .packageName)

/-- Looks for the end of a clause or declaration. -/
def lineEndStep (s : Progress) : Option TokenKind → Except Refusal (Option Progress)
  | some .semicolon => s.goTo .declaration
  | some .newline => s.goTo .declaration
  | none => .ok none
  | _ => .error (.wanted .lineEnd)

/-- Looks for another import declaration. -/
def declarationStep (s : Progress) : Option TokenKind → Except Refusal (Option Progress)
  | some .semicolon => s.goTo .declaration
  | some .newline => s.goTo .declaration
  | some (.name word) => if word = "import" then s.goTo .importKeyword else .ok none
  | _ => .ok none

/-- Opens a group or takes the start of a single import. -/
def importKeywordStep (s : Progress) : Option TokenKind → Except Refusal (Option Progress)
  | some .newline => s.goTo .importKeyword
  | some .leftParen => s.goTo .groupItem
  | found => s.startImport false found

/-- Takes the literal that must follow the name or dot of an import. -/
def importPathStep (s : Progress) (grouped : Bool) :
    Option TokenKind → Except Refusal (Option Progress)
  | some (.literal text) => s.takeImport grouped text
  | _ => .error (.wanted .importPath)

/-- Takes the start of an import in a group, or closes the group. -/
def groupItemStep (s : Progress) : Option TokenKind → Except Refusal (Option Progress)
  | some .semicolon => s.goTo .groupItem
  | some .newline => s.goTo .groupItem
  | some .rightParen => s.goTo .lineEnd
  | found => s.startImport true found

/-- Looks for the end of an import in a group. -/
def groupItemEndStep (s : Progress) : Option TokenKind → Except Refusal (Option Progress)
  | some .semicolon => s.goTo .groupItem
  | some .newline => s.goTo .groupItem
  | some .rightParen => s.goTo .lineEnd
  | _ => .error (.wanted .groupItemEnd)

/-- Moves over the next token, `none` being the end of the source. The answer `none` says that the
    header is complete in front of that token. -/
def step (s : Progress) (found : Option TokenKind) : Except Refusal (Option Progress) :=
  match s.place with
  | .start => s.startStep found
  | .packageName => s.packageNameStep found
  | .lineEnd => s.lineEndStep found
  | .declaration => s.declarationStep found
  | .importKeyword => s.importKeywordStep found
  | .importPath grouped => s.importPathStep grouped found
  | .groupItem => s.groupItemStep found
  | .groupItemEnd => s.groupItemEndStep found

/-- At the end of the source the header is complete or refused. -/
theorem step_none (s t : Progress) : s.step none ≠ .ok (some t) := by
  obtain ⟨place, header⟩ := s
  cases place <;>
    simp [step, startStep, packageNameStep, lineEndStep, declarationStep, importKeywordStep,
      importPathStep, groupItemStep, groupItemEndStep, startImport]

end Progress

/-- The fault that a refusal is, of the token found on a line. -/
def Refusal.fault (found : Option TokenKind) (line : Nat) : Refusal → HeaderFault
  | wanted what => .unexpected what found line
  | badImport literal fault => .badImport literal fault

namespace Header

/-- Reads on from a place in the source. -/
def read (s : Progress) (cur : Cursor) : Except HeaderFault Header :=
  match _h : cur.next with
  | .unclosed what line => .error (.unclosed what line)
  | .finished line =>
    match s.step none with
    | .error refusal => .error (refusal.fault none line)
    | .ok _ => .ok s.header
  | .token t after =>
    match s.step (some t.kind) with
    | .error refusal => .error (refusal.fault (some t.kind) t.line)
    | .ok none => .ok s.header
    | .ok (some s') => read s' after
termination_by cur.rest.length
decreasing_by exact Cursor.length_of_next _h

/-- The header of a source. -/
def ofSource (source : String) : Except HeaderFault Header := read .start (.ofSource source)

end Header

end VendorBuild
