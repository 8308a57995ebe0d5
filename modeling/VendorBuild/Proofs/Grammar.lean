import VendorBuild.Proofs.Acceptance

/-!
# The grammar of headers

The grammar says which tokens make up a package clause and its import declarations, and what they
declare. It does not say how they are read: how far a repetition goes, or which of two alternatives
is taken, is left to whoever reads. The automaton takes one token at a time, and at each of its
places it accepts what the grammar still asks for there.

Results:
* `Progress.accepts_of_declarations`: the automaton accepts what the grammar allows.
* `Progress.follows_of_accepts`: what the automaton accepts, the grammar allows.
* `Header.ofSource_eq_ok_iff`: a source has a header exactly if the grammar allows its tokens.
-/

namespace VendorBuild

/-! ## The grammar -/

namespace Grammar

/-- The name or dot that an import can be given. -/
inductive Alias : List TokenKind → Prop
  | none : Alias []
  | dot : Alias [.dot]
  | name {word : String} (hword : isKeyword word = false) : Alias [.name word]

/-- An import, and the path that its literal spells. -/
inductive Import : List TokenKind → String → Prop
  | intro {given : List TokenKind} {literal path : String} (hgiven : Alias given)
      (hpath : ImportPath.ofLiteral literal = .ok path) : Import (given ++ [.literal literal]) path

/-- What a group holds behind an import: more imports, each behind separators, and separators. -/
inductive GroupTail : List TokenKind → List String → Prop
  | nil {seps : List TokenKind} (hseps : ∀ k ∈ seps, IsSeparator k) : GroupTail seps []
  | cons {seps body rest : List TokenKind} {path : String} {paths : List String}
      (hseps : ∀ k ∈ seps, IsSeparator k) (hne : seps ≠ []) (hbody : Import body path)
      (hrest : GroupTail rest paths) : GroupTail (seps ++ body ++ rest) (path :: paths)

/-- What a group holds between its parentheses. -/
inductive Group : List TokenKind → List String → Prop
  | nil {seps : List TokenKind} (hseps : ∀ k ∈ seps, IsSeparator k) : Group seps []
  | cons {seps body rest : List TokenKind} {path : String} {paths : List String}
      (hseps : ∀ k ∈ seps, IsSeparator k) (hbody : Import body path)
      (hrest : GroupTail rest paths) : Group (seps ++ body ++ rest) (path :: paths)

/-- An import declaration, of a single import or of a group. -/
inductive Declaration : List TokenKind → List String → Prop
  | single {breaks body : List TokenKind} {path : String} (hbreaks : ∀ k ∈ breaks, k = .newline)
      (hbody : Import body path) : Declaration (.name "import" :: (breaks ++ body)) [path]
  | group {breaks body : List TokenKind} {paths : List String}
      (hbreaks : ∀ k ∈ breaks, k = .newline) (hbody : Group body paths) :
      Declaration (.name "import" :: (breaks ++ .leftParen :: (body ++ [.rightParen]))) paths

/-- What ends a clause or a declaration in front of the tokens `rest` and then `stop`: a separator,
or nothing if the source ends there. -/
inductive Terminator : List TokenKind → List TokenKind → Option TokenKind → Prop
  | separator {k : TokenKind} {rest : List TokenKind} {stop : Option TokenKind}
      (hk : IsSeparator k) : Terminator [k] rest stop
  | endOfSource : Terminator [] [] none

/-- Import declarations up to the token at which the header stops. -/
inductive Declarations (stop : Option TokenKind) : List TokenKind → List String → Prop
  | nil {seps : List TokenKind} (hseps : ∀ k ∈ seps, IsSeparator k) (hstop : IsStop stop) :
      Declarations stop seps []
  | cons {seps body term rest : List TokenKind} {paths more : List String}
      (hseps : ∀ k ∈ seps, IsSeparator k) (hbody : Declaration body paths)
      (hterm : Terminator term rest stop) (hrest : Declarations stop rest more) :
      Declarations stop (seps ++ body ++ term ++ rest) (paths ++ more)

/-- A package clause and import declarations up to the token at which the header stops, and the
header that they are. -/
inductive IsHeader (stop : Option TokenKind) : List TokenKind → Header → Prop
  | intro {breaks term rest : List TokenKind} {word : String} {paths : List String}
      (hbreaks : ∀ k ∈ breaks, k = .newline) (hblank : word ≠ "_")
      (hkeyword : isKeyword word = false) (hterm : Terminator term rest stop)
      (hrest : Declarations stop rest paths) :
      IsHeader stop (breaks ++ [.name "package", .name word] ++ term ++ rest) ⟨word, paths⟩

/-! ### Separators in front -/

theorem forall_mem_cons {P : TokenKind → Prop} {k : TokenKind} {ks : List TokenKind} (hk : P k)
    (hks : ∀ j ∈ ks, P j) : ∀ j ∈ k :: ks, P j :=
  List.forall_mem_cons.2 ⟨hk, hks⟩

theorem Declarations.cons_separator {stop : Option TokenKind} {k : TokenKind}
    {tokens : List TokenKind} {paths : List String} (h : Declarations stop tokens paths)
    (hk : IsSeparator k) : Declarations stop (k :: tokens) paths := by
  cases h with
  | nil hseps hstop => exact .nil (forall_mem_cons hk hseps) hstop
  | cons hseps hbody hterm hrest => exact .cons (forall_mem_cons hk hseps) hbody hterm hrest

theorem Group.cons_separator {k : TokenKind} {tokens : List TokenKind} {paths : List String}
    (h : Group tokens paths) (hk : IsSeparator k) : Group (k :: tokens) paths := by
  cases h with
  | nil hseps => exact .nil (forall_mem_cons hk hseps)
  | cons hseps hbody hrest => exact .cons (forall_mem_cons hk hseps) hbody hrest

/-- Behind a separator a group goes on as it starts. -/
theorem Group.tail {k : TokenKind} {tokens : List TokenKind} {paths : List String}
    (h : Group tokens paths) (hk : IsSeparator k) : GroupTail (k :: tokens) paths := by
  cases h with
  | nil hseps => exact .nil (forall_mem_cons hk hseps)
  | cons hseps hbody hrest =>
    exact .cons (forall_mem_cons hk hseps) (List.cons_ne_nil _ _) hbody hrest

theorem Declaration.cons_newline {body : List TokenKind} {paths : List String}
    (h : Declaration (.name "import" :: body) paths) :
    Declaration (.name "import" :: .newline :: body) paths := by
  cases h with
  | single hbreaks hbody => exact .single (forall_mem_cons rfl hbreaks) hbody
  | group hbreaks hbody => exact .group (forall_mem_cons rfl hbreaks) hbody

end Grammar

namespace Header

/-- A header with more imports behind its own. -/
def adding (h : Header) (paths : List String) : Header := { h with imports := h.imports ++ paths }

@[simp] theorem adding_nil (h : Header) : h.adding [] = h := by
  rw [adding, List.append_nil]

@[simp] theorem adding_adding (h : Header) (paths more : List String) :
    (h.adding paths).adding more = h.adding (paths ++ more) := by
  simp only [adding, List.append_assoc]

end Header

/-! ## What the grammar allows is accepted -/

namespace Place

/-- Where an import starts, in a group or behind the keyword. -/
def importStart (grouped : Bool) : Place := if grouped then groupItem else importKeyword

/-- Where the automaton is behind an import. -/
def importEnd (grouped : Bool) : Place := if grouped then groupItemEnd else lineEnd

end Place

namespace Progress

open Grammar

variable {h : Header} {tokens : List TokenKind} {path : String} {paths : List String}
  {stop : Option TokenKind} {header : Header}

theorem step_literal (grouped : Bool) {literal : String}
    (hpath : ImportPath.ofLiteral literal = .ok path) :
    step ⟨.importStart grouped, h⟩ (some (.literal literal)) =
        .ok (some ⟨.importEnd grouped, h.adding [path]⟩) ∧
      step ⟨.importPath grouped, h⟩ (some (.literal literal)) =
        .ok (some ⟨.importEnd grouped, h.adding [path]⟩) := by
  have htake : takeImport ⟨.importPath grouped, h⟩ grouped literal =
      .ok (some ⟨.importEnd grouped, h.adding [path]⟩) := by
    rw [takeImport, hpath]
    rfl
  refine ⟨?_, htake⟩
  rw [← htake]
  cases grouped <;> rfl

theorem step_alias {grouped : Bool} {k : TokenKind} (hk : Alias [k]) :
    step ⟨.importStart grouped, h⟩ (some k) = .ok (some ⟨.importPath grouped, h⟩) := by
  cases hk with
  | dot => cases grouped <;> rfl
  | name hword =>
    cases grouped <;>
      simp [Place.importStart, step, importKeywordStep, groupItemStep, startImport, hword, goTo]

theorem runs_of_import (grouped : Bool) (himport : Import tokens path) :
    Runs ⟨.importStart grouped, h⟩ tokens ⟨.importEnd grouped, h.adding [path]⟩ := by
  obtain ⟨hgiven, hpath⟩ := himport
  have hlast := step_literal (h := h) grouped hpath
  cases hgiven with
  | none => exact .one hlast.1
  | dot => exact .cons (step_alias .dot) (.one hlast.2)
  | name hword => exact .cons (step_alias (.name hword)) (.one hlast.2)

/-- Separators and then tokens from where an item of a group can start. -/
theorem runs_of_separators {seps : List TokenKind} {t : Progress}
    (hseps : ∀ k ∈ seps, IsSeparator k) (ht : Runs ⟨.groupItem, h⟩ tokens t) :
    Runs ⟨.groupItem, h⟩ (seps ++ tokens) t :=
  (Runs.stay fun k hk => (step_separator (hseps k hk)).2.2.1).append ht

theorem runs_of_groupTail (htail : GroupTail tokens paths) :
    Runs ⟨.groupItemEnd, h⟩ (tokens ++ [.rightParen]) ⟨.lineEnd, h.adding paths⟩ := by
  induction htail generalizing h with
  | @nil seps hseps =>
    rw [Header.adding_nil]
    cases seps with
    | nil => exact .one rfl
    | cons k seps =>
      obtain ⟨hk, hseps⟩ := List.forall_mem_cons.1 hseps
      exact .cons (step_separator hk).2.2.2 (runs_of_separators hseps (.one rfl))
  | @cons seps body rest path paths hseps hne hbody hrest ih =>
    cases seps with
    | nil => exact absurd rfl hne
    | cons k seps =>
      obtain ⟨hk, hseps⟩ := List.forall_mem_cons.1 hseps
      have himport : Runs ⟨.groupItem, h⟩ body ⟨.groupItemEnd, h.adding [path]⟩ :=
        runs_of_import true hbody
      have htail := himport.append (ih (h := h.adding [path]))
      rw [Header.adding_adding] at htail
      simp only [List.cons_append, List.append_assoc]
      exact .cons (step_separator hk).2.2.2 (runs_of_separators hseps htail)

theorem runs_of_group (hgroup : Group tokens paths) :
    Runs ⟨.groupItem, h⟩ (tokens ++ [.rightParen]) ⟨.lineEnd, h.adding paths⟩ := by
  cases hgroup with
  | nil hseps =>
    rw [Header.adding_nil]
    exact runs_of_separators hseps (.one rfl)
  | @cons seps body rest path paths hseps hbody hrest =>
    have himport : Runs ⟨.groupItem, h⟩ body ⟨.groupItemEnd, h.adding [path]⟩ :=
      runs_of_import true hbody
    have htail := himport.append (runs_of_groupTail hrest)
    rw [Header.adding_adding] at htail
    simp only [List.append_assoc]
    exact runs_of_separators hseps htail

theorem runs_of_breaks {breaks : List TokenKind} {t : Progress}
    (hbreaks : ∀ k ∈ breaks, k = .newline) (ht : Runs ⟨.importKeyword, h⟩ tokens t) :
    Runs ⟨.declaration, h⟩ (.name "import" :: (breaks ++ tokens)) t := by
  have hstay : Runs ⟨.importKeyword, h⟩ breaks ⟨.importKeyword, h⟩ :=
    .stay fun k hk => by rw [hbreaks k hk]; rfl
  exact .cons rfl (hstay.append ht)

theorem runs_of_declaration (hdecl : Declaration tokens paths) :
    Runs ⟨.declaration, h⟩ tokens ⟨.lineEnd, h.adding paths⟩ := by
  cases hdecl with
  | single hbreaks hbody => exact runs_of_breaks hbreaks (runs_of_import false hbody)
  | group hbreaks hbody => exact runs_of_breaks hbreaks (.cons rfl (runs_of_group hbody))

theorem accepts_of_terminator {term rest : List TokenKind} (hterm : Terminator term rest stop)
    (hrest : Accepts stop ⟨.declaration, h⟩ rest header) :
    Accepts stop ⟨.lineEnd, h⟩ (term ++ rest) header := by
  cases hterm with
  | separator hk => exact .move (step_separator hk).1 hrest
  | endOfSource =>
    cases hrest with
    | done => exact .done rfl

/-- The automaton accepts the import declarations that the grammar allows. -/
theorem accepts_of_declarations (hdecls : Declarations stop tokens paths) :
    Accepts stop ⟨.declaration, h⟩ tokens (h.adding paths) := by
  have hstay : ∀ {seps : List TokenKind} {h : Header}, (∀ k ∈ seps, IsSeparator k) →
      Runs ⟨.declaration, h⟩ seps ⟨.declaration, h⟩ :=
    fun hseps => .stay fun k hk => (step_separator (hseps k hk)).2.1
  induction hdecls generalizing h with
  | nil hseps hstop =>
    rw [Header.adding_nil]
    have := (hstay hseps).accepts (.done (step_declaration_of_isStop (h := h) hstop))
    rwa [List.append_nil] at this
  | @cons seps body term rest paths more hseps hbody hterm _ ih =>
    have hmore := ih (h := h.adding paths)
    rw [Header.adding_adding] at hmore
    have hruns := (hstay hseps).append (runs_of_declaration (h := h) hbody)
    have := hruns.accepts (accepts_of_terminator hterm hmore)
    rwa [← List.append_assoc] at this

/-- The automaton accepts the headers that the grammar allows. -/
theorem accepts_of_isHeader (hheader : IsHeader stop tokens header) :
    Accepts stop start tokens header := by
  obtain ⟨hbreaks, hblank, hkeyword, hterm, hrest⟩ := hheader
  rename_i breaks term rest word paths
  have hstay : Runs start breaks start := .stay fun k hk => by rw [hbreaks k hk]; rfl
  have hname : step ⟨.packageName, ⟨"", []⟩⟩ (some (.name word)) =
      .ok (some ⟨.lineEnd, ⟨word, []⟩⟩) := by
    simp only [step, packageNameStep, if_neg hblank, hkeyword]
    rfl
  have hclause : Runs start [.name "package", .name word] ⟨.lineEnd, ⟨word, []⟩⟩ :=
    .cons rfl (.one hname)
  have hdecls := accepts_of_declarations (h := ⟨word, []⟩) hrest
  have := (hstay.append hclause).accepts (accepts_of_terminator hterm hdecls)
  rwa [← List.append_assoc] at this

end Progress

/-! ## What is accepted, the grammar allows -/

namespace Grammar

/-- What the grammar asks for at each place of the automaton, up to the token at which the header
stops, and the header that is then complete. -/
inductive Follows (stop : Option TokenKind) : Progress → List TokenKind → Header → Prop
  | start {breaks rest : List TokenKind} {h header : Header} (hbreaks : ∀ k ∈ breaks, k = .newline)
      (hrest : Follows stop ⟨.packageName, h⟩ rest header) :
      Follows stop ⟨.start, h⟩ (breaks ++ .name "package" :: rest) header
  | packageName {rest : List TokenKind} {word : String} {h header : Header} (hblank : word ≠ "_")
      (hkeyword : isKeyword word = false)
      (hrest : Follows stop ⟨.lineEnd, { h with packageName := word }⟩ rest header) :
      Follows stop ⟨.packageName, h⟩ (.name word :: rest) header
  | lineEnd {term rest : List TokenKind} {h header : Header} (hterm : Terminator term rest stop)
      (hrest : Follows stop ⟨.declaration, h⟩ rest header) :
      Follows stop ⟨.lineEnd, h⟩ (term ++ rest) header
  | declaration {tokens : List TokenKind} {h : Header} {paths : List String}
      (hdecls : Declarations stop tokens paths) :
      Follows stop ⟨.declaration, h⟩ tokens (h.adding paths)
  | importKeyword {body rest : List TokenKind} {h header : Header} {paths : List String}
      (hbody : Declaration (.name "import" :: body) paths)
      (hrest : Follows stop ⟨.lineEnd, h.adding paths⟩ rest header) :
      Follows stop ⟨.importKeyword, h⟩ (body ++ rest) header
  | importPath {rest : List TokenKind} {h header : Header} {grouped : Bool} {literal path : String}
      (hpath : ImportPath.ofLiteral literal = .ok path)
      (hrest : Follows stop ⟨.importEnd grouped, h.adding [path]⟩ rest header) :
      Follows stop ⟨.importPath grouped, h⟩ (.literal literal :: rest) header
  | groupItem {body rest : List TokenKind} {h header : Header} {paths : List String}
      (hbody : Group body paths) (hrest : Follows stop ⟨.lineEnd, h.adding paths⟩ rest header) :
      Follows stop ⟨.groupItem, h⟩ (body ++ .rightParen :: rest) header
  | groupItemEnd {body rest : List TokenKind} {h header : Header} {paths : List String}
      (hbody : GroupTail body paths) (hrest : Follows stop ⟨.lineEnd, h.adding paths⟩ rest header) :
      Follows stop ⟨.groupItemEnd, h⟩ (body ++ .rightParen :: rest) header

variable {k : TokenKind} {tokens : List TokenKind} {stop : Option TokenKind} {h header : Header}

/-- Where a declaration can start, so can separators. -/
theorem Follows.declaration_separator (hk : IsSeparator k)
    (hrest : Follows stop ⟨.declaration, h⟩ tokens header) :
    Follows stop ⟨.declaration, h⟩ (k :: tokens) header := by
  cases hrest with
  | declaration hdecls => exact .declaration (hdecls.cons_separator hk)

/-- Where an item of a group can start, so can separators. -/
theorem Follows.groupItem_separator (hk : IsSeparator k)
    (hrest : Follows stop ⟨.groupItem, h⟩ tokens header) :
    Follows stop ⟨.groupItem, h⟩ (k :: tokens) header := by
  cases hrest with
  | groupItem hbody hrest => exact .groupItem (hbody.cons_separator hk) hrest

theorem Follows.groupItemEnd_separator (hk : IsSeparator k)
    (hrest : Follows stop ⟨.groupItem, h⟩ tokens header) :
    Follows stop ⟨.groupItemEnd, h⟩ (k :: tokens) header := by
  cases hrest with
  | groupItem hbody hrest => exact .groupItemEnd (hbody.tail hk) hrest

end Grammar

namespace Progress

open Grammar

variable {s s' : Progress} {k : TokenKind} {tokens : List TokenKind} {stop : Option TokenKind}
  {header : Header}

/-- An import stands where one can start, in a group or behind the keyword. -/
theorem follows_of_import {h : Header} {grouped : Bool} {body : List TokenKind} {path : String}
    (hbody : Import body path)
    (hrest : Follows stop ⟨.importEnd grouped, h.adding [path]⟩ tokens header) :
    Follows stop ⟨.importStart grouped, h⟩ (body ++ tokens) header := by
  cases grouped with
  | false =>
    have hdecl := Declaration.single (List.forall_mem_nil _) hbody
    exact .importKeyword hdecl hrest
  | true =>
    cases hrest with
    | groupItemEnd htail hrest =>
      rw [Header.adding_adding] at hrest
      have hgroup := Group.cons (List.forall_mem_nil _) hbody htail
      have := Follows.groupItem hgroup hrest
      simpa [Place.importStart] using this

theorem follows_of_alias {h : Header} {grouped : Bool} {given : List TokenKind}
    (hgiven : Alias given) (hrest : Follows stop ⟨.importPath grouped, h⟩ tokens header) :
    Follows stop ⟨.importStart grouped, h⟩ (given ++ tokens) header := by
  cases hrest with
  | importPath hpath hrest =>
    have := follows_of_import (.intro hgiven hpath) hrest
    rwa [List.append_assoc] at this

theorem follows_of_takeImport {h : Header} {grouped : Bool} {place : Place} {literal : String}
    (hstep : takeImport ⟨place, h⟩ grouped literal = .ok (some s'))
    (hrest : Follows stop s' tokens header) :
    Follows stop ⟨.importPath grouped, h⟩ (.literal literal :: tokens) header := by
  unfold takeImport at hstep
  split at hstep
  · cases hstep
  · rename_i path hpath
    cases hstep
    exact .importPath hpath hrest

theorem follows_of_startImport {h : Header} (grouped : Bool) {place : Place}
    (hstep : startImport ⟨place, h⟩ grouped (some k) = .ok (some s'))
    (hrest : Follows stop s' tokens header) :
    Follows stop ⟨.importStart grouped, h⟩ (k :: tokens) header := by
  unfold startImport at hstep
  split at hstep <;> rename_i hk
  · cases hk
    cases hstep
    exact follows_of_alias .dot hrest
  · cases hk
    split_ifs at hstep with hword
    cases hstep
    exact follows_of_alias (.name (eq_false_of_ne_true hword)) hrest
  · cases hk
    exact follows_of_alias .none (follows_of_takeImport hstep hrest)
  · cases hstep

theorem follows_of_startStep {h : Header} (hstep : startStep ⟨.start, h⟩ (some k) = .ok (some s'))
    (hrest : Follows stop s' tokens header) : Follows stop ⟨.start, h⟩ (k :: tokens) header := by
  unfold startStep at hstep
  split at hstep <;> rename_i hk
  · cases hk
    cases hstep
    cases hrest with
    | start hbreaks hrest => exact .start (forall_mem_cons rfl hbreaks) hrest
  · cases hk
    split_ifs at hstep with hword
    cases hstep
    rw [hword]
    have := Follows.start (List.forall_mem_nil _) hrest
    exact this
  · cases hstep

theorem follows_of_packageNameStep {h : Header}
    (hstep : packageNameStep ⟨.packageName, h⟩ (some k) = .ok (some s'))
    (hrest : Follows stop s' tokens header) :
    Follows stop ⟨.packageName, h⟩ (k :: tokens) header := by
  unfold packageNameStep at hstep
  split at hstep <;> rename_i hk
  · cases hk
    split_ifs at hstep with hblank hkeyword
    cases hstep
    exact .packageName hblank (eq_false_of_ne_true hkeyword) hrest
  · cases hstep

theorem follows_of_lineEndStep {h : Header}
    (hstep : lineEndStep ⟨.lineEnd, h⟩ (some k) = .ok (some s'))
    (hrest : Follows stop s' tokens header) : Follows stop ⟨.lineEnd, h⟩ (k :: tokens) header := by
  unfold lineEndStep at hstep
  split at hstep <;> rename_i hk
  · cases hk
    cases hstep
    exact .lineEnd (.separator (.inr rfl)) hrest
  · cases hk
    cases hstep
    exact .lineEnd (.separator (.inl rfl)) hrest
  · cases hk
  · cases hstep

theorem follows_of_declarationStep {h : Header}
    (hstep : declarationStep ⟨.declaration, h⟩ (some k) = .ok (some s'))
    (hrest : Follows stop s' tokens header) :
    Follows stop ⟨.declaration, h⟩ (k :: tokens) header := by
  unfold declarationStep at hstep
  split at hstep <;> rename_i hk
  · cases hk
    cases hstep
    exact Follows.declaration_separator (.inr rfl) hrest
  · cases hk
    cases hstep
    exact Follows.declaration_separator (.inl rfl) hrest
  · cases hk
    split_ifs at hstep with hword
    cases hstep
    cases hrest with
    | importKeyword hbody hrest =>
      cases hrest with
      | lineEnd hterm hrest =>
        cases hrest with
        | declaration hdecls =>
          have := Declarations.cons (List.forall_mem_nil _) hbody hterm hdecls
          rw [Header.adding_adding, hword]
          simpa using Follows.declaration (h := h) this
    · cases hstep
  · cases hstep

theorem follows_of_importKeywordStep {h : Header}
    (hstep : importKeywordStep ⟨.importKeyword, h⟩ (some k) = .ok (some s'))
    (hrest : Follows stop s' tokens header) :
    Follows stop ⟨.importKeyword, h⟩ (k :: tokens) header := by
  unfold importKeywordStep at hstep
  split at hstep <;> rename_i hk
  · cases hk
    cases hstep
    cases hrest with
    | importKeyword hbody hrest => exact .importKeyword hbody.cons_newline hrest
  · cases hk
    cases hstep
    cases hrest with
    | groupItem hbody hrest =>
      have hdecl := Declaration.group (List.forall_mem_nil _) hbody
      have := Follows.importKeyword hdecl hrest
      simpa using this
  · exact follows_of_startImport false hstep hrest

theorem follows_of_importPathStep {h : Header} {grouped : Bool}
    (hstep : importPathStep ⟨.importPath grouped, h⟩ grouped (some k) = .ok (some s'))
    (hrest : Follows stop s' tokens header) :
    Follows stop ⟨.importPath grouped, h⟩ (k :: tokens) header := by
  unfold importPathStep at hstep
  split at hstep <;> rename_i hk
  · cases hk
    exact follows_of_takeImport hstep hrest
  · cases hstep

theorem follows_of_groupItemStep {h : Header}
    (hstep : groupItemStep ⟨.groupItem, h⟩ (some k) = .ok (some s'))
    (hrest : Follows stop s' tokens header) :
    Follows stop ⟨.groupItem, h⟩ (k :: tokens) header := by
  unfold groupItemStep at hstep
  split at hstep <;> rename_i hk
  · cases hk
    cases hstep
    exact Follows.groupItem_separator (.inr rfl) hrest
  · cases hk
    cases hstep
    exact Follows.groupItem_separator (.inl rfl) hrest
  · cases hk
    cases hstep
    have := Follows.groupItem (.nil (List.forall_mem_nil _)) ((h.adding_nil).symm ▸ hrest)
    exact this
  · exact follows_of_startImport true hstep hrest

theorem follows_of_groupItemEndStep {h : Header}
    (hstep : groupItemEndStep ⟨.groupItemEnd, h⟩ (some k) = .ok (some s'))
    (hrest : Follows stop s' tokens header) :
    Follows stop ⟨.groupItemEnd, h⟩ (k :: tokens) header := by
  unfold groupItemEndStep at hstep
  split at hstep <;> rename_i hk
  · cases hk
    cases hstep
    exact Follows.groupItemEnd_separator (.inr rfl) hrest
  · cases hk
    cases hstep
    exact Follows.groupItemEnd_separator (.inl rfl) hrest
  · cases hk
    cases hstep
    have := Follows.groupItemEnd (.nil (List.forall_mem_nil _)) ((h.adding_nil).symm ▸ hrest)
    exact this
  · cases hstep

/-- A token that the automaton moves over stands in front of what the grammar asks for behind it. -/
theorem follows_of_step (hstep : s.step (some k) = .ok (some s'))
    (hrest : Follows stop s' tokens header) : Follows stop s (k :: tokens) header := by
  obtain ⟨place, h⟩ := s
  cases place with
  | start => exact follows_of_startStep hstep hrest
  | packageName => exact follows_of_packageNameStep hstep hrest
  | lineEnd => exact follows_of_lineEndStep hstep hrest
  | declaration => exact follows_of_declarationStep hstep hrest
  | importKeyword => exact follows_of_importKeywordStep hstep hrest
  | importPath grouped => exact follows_of_importPathStep hstep hrest
  | groupItem => exact follows_of_groupItemStep hstep hrest
  | groupItemEnd => exact follows_of_groupItemEndStep hstep hrest

/-- Where the header is complete, the grammar asks for nothing more. -/
theorem follows_of_step_none (hstep : s.step stop = .ok none) : Follows stop s [] s.header := by
  have hdone {h : Header} (hstop : IsStop stop) : Follows stop ⟨.declaration, h⟩ [] h := by
    have := Follows.declaration (h := h) (.nil (List.forall_mem_nil _) hstop)
    rwa [Header.adding_nil] at this
  obtain ⟨place, h⟩ := s
  obtain ⟨rfl, rfl⟩ | ⟨rfl, hstop⟩ := place_of_step_none hstep
  · exact .lineEnd .endOfSource (hdone fun k hk => by cases hk)
  · exact hdone hstop

/-- What the automaton accepts, the grammar asks for. -/
theorem follows_of_accepts (h : Accepts stop s tokens header) : Follows stop s tokens header := by
  induction h with
  | done hstep => exact follows_of_step_none hstep
  | move hstep _ ih => exact follows_of_step hstep ih

/-- At the start the grammar asks for a whole header. -/
theorem isHeader_of_follows (h : Follows stop start tokens header) :
    IsHeader stop tokens header := by
  cases h with
  | start hbreaks hrest =>
    cases hrest with
    | packageName hblank hkeyword hrest =>
      cases hrest with
      | lineEnd hterm hrest =>
        cases hrest with
        | declaration hdecls =>
          have := IsHeader.intro hbreaks hblank hkeyword hterm hdecls
          simpa [Header.adding] using this

end Progress

/-! ## Sources -/

/-- A source has a header exactly if the grammar allows the tokens up to some stop, all of which can
be read, and the header is then what the grammar says they declare. -/
theorem Header.ofSource_eq_ok_iff {source : String} {header : Header} :
    ofSource source = .ok header ↔
      ∃ tokens stop, (Cursor.ofSource source).Reads tokens stop ∧
        Grammar.IsHeader stop tokens header := by
  rw [ofSource, read_eq_ok_iff]
  constructor
  · rintro ⟨tokens, stop, hreads, haccepts⟩
    exact ⟨tokens, stop, hreads,
      Progress.isHeader_of_follows (Progress.follows_of_accepts haccepts)⟩
  · rintro ⟨tokens, stop, hreads, hheader⟩
    exact ⟨tokens, stop, hreads, Progress.accepts_of_isHeader hheader⟩

/-- Separators are free between declarations and in groups, and the word behind the last of them
stops the header. -/
example : (Header.ofSource
    "\npackage p;\nimport (; \"a\"\n. \"b\" )\nimport\nx \"a\";;\nfunc \"").toOption =
      some ⟨"p", ["a", "b", "a"]⟩ := by
  decide +kernel

end VendorBuild
