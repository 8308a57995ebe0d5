import VendorBuild.Proofs.Body
import VendorBuild.Proofs.Declared
import VendorBuild.Proofs.Delimiters
import VendorBuild.Proofs.Grammar
import VendorBuild.Proofs.Quoting

/-!
# Printed headers are read back

A header can be printed from a name, and from declarations whose imports have paths and, some of
them, names of their own. Each piece of the print is read as its own tokens whatever is printed
behind it: a name ends at the blank that follows it, and a literal at the first quote that no
backslash precedes, which is its own. The automaton then takes up the paths in the order in which
they are printed.

Results:
* `PrintedHeader.isReadAs_text`: a printed header is read as its tokens.
* `PrintedHeader.ofSource_text`: a printed header declares what it was printed from.
-/

namespace VendorBuild

/-! ## Printed headers -/

/-- What an import can be given for a name. -/
inductive GivenName where
  | dot
  | word (text : String) (isName : IsName text) (notKeyword : isKeyword text = false)

/-- An import as it is printed: between back quotes, or else quoted. -/
structure PrintedImport where
  given : Option GivenName
  path : String
  importable : IsImportable path
  raw : Bool

/-- An import declaration as it is printed. -/
inductive PrintedDeclaration where
  | single (item : PrintedImport)
  | group (items : List PrintedImport)

/-- A header as it is printed. -/
structure PrintedHeader where
  name : String
  isPackageName : IsPackageName name
  declarations : List PrintedDeclaration

/-- The text of a given name, and the blank behind it. -/
def GivenName.text : GivenName → String
  | dot => ". "
  | word text _ _ => text ++ " "

namespace PrintedImport

/-- The literal that spells the path. -/
def literal (item : PrintedImport) : String :=
  if item.raw then "`" ++ item.path ++ "`" else Quoted.quote item.path

def text (item : PrintedImport) : String :=
  item.given.elim "" GivenName.text ++ item.literal

end PrintedImport

namespace PrintedDeclaration

def text : PrintedDeclaration → String
  | single item => "import " ++ item.text ++ "\n"
  | group items =>
    "import (\n" ++ String.join (items.map fun item => "\t" ++ item.text ++ "\n") ++ ")\n"

/-- The paths of the imports in order. -/
def paths : PrintedDeclaration → List String
  | single item => [item.path]
  | group items => items.map (·.path)

end PrintedDeclaration

namespace PrintedHeader

def text (h : PrintedHeader) : String :=
  "package " ++ h.name ++ "\n" ++ String.join (h.declarations.map (·.text))

/-- The paths of all imports in order. -/
def paths (h : PrintedHeader) : List String := h.declarations.flatMap (·.paths)

end PrintedHeader

/-! ## Pieces that are read as their tokens -/

/-- Whether a piece of a source is read as some tokens, whatever comes behind it. -/
def IsReadAs (piece : List Char) (tokens : List TokenKind) : Prop :=
  ∀ (rest : List Char) (more : List TokenKind) (stop : Option TokenKind),
    (∀ line, (Cursor.mk line rest).Reads more stop) →
      ∀ line, (Cursor.mk line (piece ++ rest)).Reads (tokens ++ more) stop

theorem Cursor.Reads.of_next {cur cur' : Cursor} {tokens : List TokenKind}
    {stop : Option TokenKind} (h : cur.next = cur'.next) (hreads : cur'.Reads tokens stop) :
    cur.Reads tokens stop := by
  cases hreads with
  | stop hnext => exact .stop (h.trans hnext)
  | finish hnext => exact .finish (h.trans hnext)
  | token hnext hrest => exact .token (h.trans hnext) hrest

namespace IsReadAs

variable {front back : List Char} {tokens more : List TokenKind}

theorem nil : IsReadAs [] [] := fun _ _ _ h => h

theorem append (h : IsReadAs front tokens) (h' : IsReadAs back more) :
    IsReadAs (front ++ back) (tokens ++ more) := by
  intro rest behind stop hrest line
  rw [List.append_assoc, List.append_assoc]
  exact h _ _ _ (h' _ _ _ hrest) line

/-- A lexeme in front that is a token. -/
theorem token {l : Lexeme} {k : TokenKind} (hspelled : l.IsSpelled)
    (hend : ∀ rest, l.EndsBefore (back ++ rest).head?) (hkind : l.token? = some k)
    (h : IsReadAs back tokens) : IsReadAs (l.text ++ back) (k :: tokens) := by
  intro rest more stop hrest line
  obtain ⟨c, cs, htext, hread⟩ := hspelled.exists_read (hend rest)
  have hnext : (Cursor.mk line (c :: cs)).next = _ := Cursor.readToken_of_token? hread hkind
  rw [List.append_assoc, htext, List.cons_append]
  exact .token hnext (h _ _ _ hrest _)

/-- A lexeme that ends by itself. -/
theorem lexeme {l : Lexeme} {k : TokenKind} (hspelled : l.IsSpelled)
    (hend : ∀ next, l.EndsBefore next) (hkind : l.token? = some k) : IsReadAs l.text [k] := by
  have htoken := token hspelled (fun rest => hend ([] ++ rest).head?) hkind nil
  rwa [List.append_nil] at htoken

theorem blank {c : Char} (hc : c ≠ '\n') (hblank : Text.isBlank c = true)
    (h : IsReadAs back tokens) : IsReadAs (c :: back) tokens := by
  intro rest more stop hrest line
  have hread : Lexeme.IsRead c (back ++ rest) (.blank c) (back ++ rest) := .blank hc hblank
  have hnext : (Cursor.mk line (c :: (back ++ rest))).next = Cursor.next ⟨_, back ++ rest⟩ :=
    Cursor.readToken_of_token?_eq_none (Lexeme.read_of_isRead hread) rfl
  exact .of_next hnext (h _ _ _ hrest _)

theorem name {text : String} {c : Char} (hname : IsName text) (hc : isNamePart c = false)
    (h : IsReadAs (c :: back) tokens) :
    IsReadAs (text.toList ++ c :: back) (.name text :: tokens) := by
  obtain ⟨d, cs, htext, hstart⟩ := hname.start
  have hspelled : (Lexeme.name (d :: cs)).IsSpelled :=
    .name hstart fun e he => hname.parts e (htext ▸ List.mem_cons_of_mem d he)
  have hkind : (Lexeme.name (d :: cs)).token? = some (.name text) := by
    rw [Lexeme.token?, ← htext, String.ofList_toList]
  rw [htext]
  refine token hspelled (fun rest e he => ?_) hkind h
  rwa [← Option.some.inj he]

theorem mark {c : Char} (hc : c = '(' ∨ c = ')' ∨ c = '.') : IsReadAs [c] [.ofMark c] := by
  obtain ⟨hline, hblank, hslash, hquote, hback, hstart⟩ : c ≠ '\n' ∧ Text.isBlank c = false ∧
      c ≠ '/' ∧ c ≠ '"' ∧ c ≠ '`' ∧ isNameStart c = false := by
    obtain rfl | rfl | rfl := hc <;> decide
  exact lexeme (.mark hline hblank hquote hback hstart) (fun _ he => absurd he hslash) rfl

theorem newline : IsReadAs ['\n'] [.newline] := lexeme .newline (fun _ => trivial) rfl

theorem word {text : String} (hname : IsName text) :
    IsReadAs (text ++ " ").toList [.name text] := by
  rw [String.toList_append]
  exact name hname (by decide) (blank (by decide) (by decide) nil)

theorem flatMap {α : Type} {xs : List α} {f : α → List Char} {g : α → List TokenKind}
    (h : ∀ x ∈ xs, IsReadAs (f x) (g x)) : IsReadAs (xs.flatMap f) (xs.flatMap g) := by
  induction xs with
  | nil => exact nil
  | cons x xs ih =>
    obtain ⟨hx, hxs⟩ := List.forall_mem_cons.1 h
    rw [List.flatMap_cons, List.flatMap_cons]
    exact hx.append (ih hxs)

end IsReadAs

/-! ## Headers that are read as their tokens -/

namespace GivenName

def tokens : GivenName → List TokenKind
  | dot => [.dot]
  | word text _ _ => [.name text]

theorem isReadAs_text (g : GivenName) : IsReadAs g.text.toList g.tokens := by
  cases g with
  | dot => exact (IsReadAs.mark (.inr (.inr rfl))).append (.blank (by decide) (by decide) .nil)
  | word _ isName _ => exact .word isName

theorem alias_tokens (g : GivenName) : Grammar.Alias g.tokens := by
  cases g with
  | dot => exact .dot
  | word _ _ notKeyword => exact .name notKeyword

end GivenName

namespace PrintedImport

variable (item : PrintedImport)

def tokens : List TokenKind :=
  item.given.elim [] GivenName.tokens ++ [.literal item.literal]

/-- The path of an import holds nothing that a literal between back quotes would change. -/
theorem ne_of_mem_path {c : Char} (h : c ∈ item.path.toList) : c ≠ '`' ∧ c ≠ '\r' := by
  have hlegal := item.importable.legal c h
  constructor
  · rintro rfl
    exact absurd hlegal (by decide)
  · rintro rfl
    exact absurd hlegal (by decide)

theorem toList_literal :
    item.literal.toList =
      if item.raw then '`' :: (item.path.toList ++ ['`'])
      else '"' :: (item.path.toList.flatMap Quoted.escape ++ ['"']) := by
  unfold literal
  split
  · simp
  · exact String.toList_ofList

/-- The literal of an import spells its path. -/
theorem ofLiteral_literal : ImportPath.ofLiteral item.literal = .ok item.path := by
  refine ImportPath.ofLiteral_eq_ok_iff.2 ⟨?_, item.importable.ne_empty, item.importable.legal⟩
  have hlist := item.toList_literal
  split at hlist
  · rw [Literal.value_of_raw hlist, Literal.rawValue_eq_ok_iff]
    refine ⟨fun h => (item.ne_of_mem_path h).1 rfl, ?_⟩
    exact (List.filter_eq_self.2 fun c hc => decide_eq_true (item.ne_of_mem_path hc).2).symm
  · rw [Literal.value_of_quoted hlist, Literal.quotedValue_eq_ok_iff]
    exact Literal.spells_flatMap_escape _

/-- The literal of an import is read as one token, as any text is that has a value. -/
theorem isReadAs_literal : IsReadAs item.literal.toList [.literal item.literal] := by
  obtain ⟨hvalue, -⟩ := ImportPath.ofLiteral_eq_ok_iff.1 item.ofLiteral_literal
  obtain ⟨l, hspelled, hend, htext, hkind⟩ := Literal.exists_lexeme_of_value hvalue
  rw [← htext]
  exact .lexeme hspelled hend hkind

theorem isReadAs_text : IsReadAs item.text.toList item.tokens := by
  rw [text, tokens, String.toList_append]
  refine .append ?_ item.isReadAs_literal
  cases item.given with
  | none => exact .nil
  | some g => exact g.isReadAs_text

theorem import_tokens : Grammar.Import item.tokens item.path := by
  refine .intro ?_ item.ofLiteral_literal
  cases item.given with
  | none => exact .none
  | some g => exact g.alias_tokens

end PrintedImport

theorem isName_import : IsName "import" := by
  decide

theorem isName_package : IsName "package" := by
  decide

namespace PrintedDeclaration

def tokens : PrintedDeclaration → List TokenKind
  | single item => .name "import" :: (item.tokens ++ [.newline])
  | group items =>
    .name "import" :: .leftParen :: .newline ::
      (items.flatMap (fun item => item.tokens ++ [.newline]) ++ [.rightParen, .newline])

theorem isReadAs_text (d : PrintedDeclaration) : IsReadAs d.text.toList d.tokens := by
  have hword : IsReadAs "import ".toList [.name "import"] := .word isName_import
  cases d with
  | single item =>
    rw [text, String.toList_append, String.toList_append]
    exact (hword.append item.isReadAs_text).append .newline
  | group items =>
    have hopen : IsReadAs "(\n".toList [.leftParen, .newline] :=
      (IsReadAs.mark (.inl rfl)).append .newline
    have hclose : IsReadAs ")\n".toList [.rightParen, .newline] :=
      (IsReadAs.mark (.inr (.inl rfl))).append .newline
    have hitem : ∀ item : PrintedImport,
        IsReadAs ("\t" ++ item.text ++ "\n").toList (item.tokens ++ [.newline]) := by
      intro item
      rw [String.toList_append, String.toList_append]
      have hblank : IsReadAs ('\t' :: item.text.toList) item.tokens :=
        .blank (by decide) (by decide) item.isReadAs_text
      exact hblank.append .newline
    have hitems := IsReadAs.flatMap fun item (_ : item ∈ items) => hitem item
    rw [text, String.toList_append, String.toList_append, String.toList_join, List.flatMap_map]
    have := ((hword.append hopen).append hitems).append hclose
    rwa [tokens]

/-- The automaton moves over the imports of a group and takes up their paths. -/
theorem runs_of_items (items : List PrintedImport) (h : Header) :
    Progress.Runs ⟨.groupItem, h⟩ (items.flatMap fun item => item.tokens ++ [.newline])
      ⟨.groupItem, h.adding (items.map (·.path))⟩ := by
  induction items generalizing h with
  | nil =>
    rw [List.map_nil, Header.adding_nil]
    exact .nil
  | cons item items ih =>
    have himport : Progress.Runs ⟨.groupItem, h⟩ item.tokens
        ⟨.groupItemEnd, h.adding [item.path]⟩ :=
      Progress.runs_of_import true item.import_tokens
    have hrest := ih (h.adding [item.path])
    rw [Header.adding_adding] at hrest
    rw [List.flatMap_cons, List.map_cons]
    exact (himport.append (.one rfl)).append hrest

/-- The automaton moves over a declaration and takes up its paths. -/
theorem runs_tokens (d : PrintedDeclaration) (h : Header) :
    Progress.Runs ⟨.declaration, h⟩ d.tokens ⟨.declaration, h.adding d.paths⟩ := by
  cases d with
  | single item =>
    have himport : Progress.Runs ⟨.importKeyword, h⟩ item.tokens ⟨.lineEnd, h.adding [item.path]⟩ :=
      Progress.runs_of_import false item.import_tokens
    exact .cons rfl (himport.append (.one rfl))
  | group items =>
    have hclose : Progress.Runs ⟨.groupItem, h.adding (items.map (·.path))⟩
        [.rightParen, .newline] ⟨.declaration, h.adding (items.map (·.path))⟩ :=
      .cons rfl (.one rfl)
    exact .cons rfl (.cons rfl (.cons rfl ((runs_of_items items h).append hclose)))

end PrintedDeclaration

namespace PrintedHeader

variable (h : PrintedHeader)

def tokens : List TokenKind :=
  [.name "package", .name h.name, .newline] ++ h.declarations.flatMap (·.tokens)

theorem isReadAs_text : IsReadAs h.text.toList h.tokens := by
  have hword : IsReadAs "package ".toList [.name "package"] := .word isName_package
  have hname : IsReadAs (h.name.toList ++ ['\n']) [.name h.name, .newline] :=
    .name h.isPackageName.toIsName isNamePart_newline .newline
  have hdecls := IsReadAs.flatMap fun d (_ : d ∈ h.declarations) => d.isReadAs_text
  rw [text, String.toList_append, String.toList_append, String.toList_append, String.toList_join,
    List.flatMap_map]
  have := (hword.append hname).append hdecls
  rw [← List.append_assoc "package ".toList] at this
  exact this

theorem runs_of_declarations (ds : List PrintedDeclaration) (h : Header) :
    Progress.Runs ⟨.declaration, h⟩ (ds.flatMap (·.tokens))
      ⟨.declaration, h.adding (ds.flatMap (·.paths))⟩ := by
  induction ds generalizing h with
  | nil =>
    rw [List.flatMap_nil, List.flatMap_nil, Header.adding_nil]
    exact .nil
  | cons d ds ih =>
    have hrest := ih (h.adding d.paths)
    rw [Header.adding_adding] at hrest
    rw [List.flatMap_cons, List.flatMap_cons]
    exact (d.runs_tokens h).append hrest

/-- The automaton accepts the tokens of a printed header. -/
theorem accepts_tokens : Progress.Accepts none .start h.tokens ⟨h.name, h.paths⟩ := by
  have hname : Progress.step ⟨.packageName, ⟨"", []⟩⟩ (some (.name h.name)) =
      .ok (some ⟨.lineEnd, ⟨h.name, []⟩⟩) := by
    simp only [Progress.step, Progress.packageNameStep, if_neg h.isPackageName.ne_blank,
      h.isPackageName.not_keyword]
    rfl
  have hclause : Progress.Runs .start [.name "package", .name h.name, .newline]
      ⟨.declaration, ⟨h.name, []⟩⟩ :=
    .cons rfl (.cons hname (.one rfl))
  have hruns := hclause.append (runs_of_declarations h.declarations ⟨h.name, []⟩)
  have hstop : IsStop none := fun k hk => by cases hk
  have := hruns.accepts (.done (Progress.step_declaration_of_isStop hstop))
  rwa [List.append_nil] at this

/-- A printed header declares the name and the paths that it was printed from. -/
theorem ofSource_text : Header.ofSource h.text = .ok ⟨h.name, h.paths⟩ := by
  have hsource : Cursor.ofSource h.text = ⟨1, h.text.toList⟩ := by
    have htext : h.text.toList = 'p' :: (h.text.toList).tail := by
      rw [text, String.toList_append, String.toList_append, String.toList_append]
      rfl
    rw [Cursor.ofSource, htext]
    rfl
  have hend : ∀ line, (Cursor.mk line []).Reads [] none :=
    fun line => .finish (by rw [Cursor.next, Cursor.readToken])
  have hreads := h.isReadAs_text [] [] none hend 1
  rw [List.append_nil, List.append_nil] at hreads
  rw [Header.ofSource, hsource]
  exact Header.read_eq_ok_iff.2 ⟨h.tokens, none, hreads, h.accepts_tokens⟩

/-- A header with slashes between quotes, which start no comment, and with a character that cannot
be seen, which is printed as an escape. -/
def slashedHeader : PrintedHeader where
  name := "p"
  isPackageName := by decide
  declarations :=
    [.group [⟨some .dot, "a//b", by decide, true⟩],
      .single ⟨none, "a\u200B", by decide, false⟩]

theorem ofSource_text_slashedHeader :
    slashedHeader.text = "package p\nimport (\n\t. `a//b`\n)\nimport \"a\\u200b\"\n" ∧
      Header.ofSource slashedHeader.text = .ok ⟨"p", ["a//b", "a\u200B"]⟩ :=
  ⟨by decide, ofSource_text slashedHeader⟩

end PrintedHeader

end VendorBuild
