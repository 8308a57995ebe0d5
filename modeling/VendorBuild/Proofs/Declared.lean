import VendorBuild.Proofs.Scanned
import VendorBuild.Proofs.Stepwise

/-!
# What sources declare

The automaton that reads a header takes the name of a package and the paths of its imports from the
tokens it moves over. A name token is spelled with the characters of names only, and what is neither
a keyword nor blank among them is the name of a package. The package of a directory has the name
that all its sources declare, and of their imports those that can be packages.

Results:
* `Progress.moved_of_step`: what one step of the automaton can do.
* `Header.isSound_of_read`: what a header that is read declares.
* `isSound_of_scan`, `isSound_of_discover`: what the packages of a tree declare.
* `packages_of_scan_are_sound`: the same in terms of characters.
-/

namespace VendorBuild

/-- Whether a text is spelled as a name is. -/
structure IsName (text : String) : Prop where
  start : ∃ c rest, text.toList = c :: rest ∧ isNameStart c = true
  parts : ∀ c ∈ text.toList, isNamePart c = true

/-- Whether a package can have a text as its name. -/
structure IsPackageName (text : String) : Prop extends IsName text where
  ne_blank : text ≠ "_"
  not_keyword : isKeyword text = false

/-- Whether a text can stand in an import. -/
structure IsImportable (path : String) : Prop where
  ne_empty : path ≠ ""
  legal : ∀ c ∈ path.toList, ImportPath.isIllegal c = false

/-! ### Deciding -/

theorem isName_iff {text : String} :
    IsName text ↔ text.toList.head?.any isNameStart = true ∧ text.toList.all isNamePart = true := by
  constructor
  · rintro ⟨⟨c, rest, htext, hstart⟩, hparts⟩
    refine ⟨?_, List.all_eq_true.2 hparts⟩
    rw [htext]
    exact hstart
  · rintro ⟨hstart, hparts⟩
    cases htext : text.toList with
    | nil =>
      rw [htext] at hstart
      cases hstart
    | cons c rest =>
      rw [htext] at hstart
      exact ⟨⟨c, rest, htext, hstart⟩, List.all_eq_true.1 hparts⟩

theorem isPackageName_iff {text : String} :
    IsPackageName text ↔ IsName text ∧ text ≠ "_" ∧ isKeyword text = false := by
  constructor
  · intro h
    exact ⟨h.toIsName, h.ne_blank, h.not_keyword⟩
  · rintro ⟨hname, hne, hword⟩
    exact ⟨hname, hne, hword⟩

theorem isImportable_iff {path : String} :
    IsImportable path ↔ path ≠ "" ∧ path.toList.any ImportPath.isIllegal = false := by
  rw [List.any_eq_false]
  constructor
  · rintro ⟨hne, hlegal⟩
    exact ⟨hne, fun c hc => by simp [hlegal c hc]⟩
  · rintro ⟨hne, hlegal⟩
    exact ⟨hne, fun c hc => eq_false_of_ne_true (hlegal c hc)⟩

instance (text : String) : Decidable (IsName text) := decidable_of_iff' _ isName_iff

instance (text : String) : Decidable (IsPackageName text) := decidable_of_iff' _ isPackageName_iff

instance (path : String) : Decidable (IsImportable path) := decidable_of_iff' _ isImportable_iff

/-- The marks that would break a label or a list of labels, and the one that stands for bytes that
are not text, are among those that no import path holds. -/
theorem mem_illegalMarks {c : Char} (h : c ∈ ":,\"'`\\\uFFFD".toList) :
    c ∈ ImportPath.illegalMarks := by
  have hall : ":,\"'`\\\uFFFD".toList.all ImportPath.illegalMarks.contains = true := by
    decide +kernel
  exact List.contains_iff_mem.1 (List.all_eq_true.1 hall c h)

/-! ## Names -/

theorem IsName.ne_empty {text : String} (h : IsName text) : text ≠ "" := by
  obtain ⟨c, rest, htext, -⟩ := h.start
  intro he
  rw [he] at htext
  cases htext

/-- What is no part of a name is not in one. -/
theorem IsName.notMem {text : String} (h : IsName text) {c : Char} (hc : isNamePart c = false) :
    c ∉ text.toList := by
  intro hmem
  rw [h.parts c hmem] at hc
  cases hc

theorem IsImportable.notMem {path : String} (h : IsImportable path) {c : Char}
    (hc : ImportPath.isIllegal c = true) : c ∉ path.toList := by
  intro hmem
  rw [h.legal c hmem] at hc
  cases hc

theorem isName_of_isSpelled {text : List Char} (h : (Lexeme.name text).IsSpelled) :
    IsName (String.ofList text) := by
  cases h with
  | @name c rest hstart hrest =>
    refine ⟨⟨c, rest, String.toList_ofList, hstart⟩, fun d hd => ?_⟩
    rw [String.toList_ofList] at hd
    obtain rfl | hd := List.mem_cons.1 hd
    · rw [isNamePart, hstart, Bool.true_or]
    · exact hrest d hd

theorem eq_name_of_token? {l : Lexeme} {word : String} (h : l.token? = some (.name word)) :
    ∃ text, l = .name text ∧ word = String.ofList text := by
  unfold Lexeme.token? at h
  split at h
  · cases h
  · cases h
  · cases h
  · split at h <;> cases h
  · rename_i text
    cases h
    exact ⟨text, rfl, rfl⟩
  · cases h
  · cases h
  · unfold TokenKind.ofMark at h
    split_ifs at h <;> cases h

theorem isName_of_readToken {line : Nat} {source : List Char} {t : Token} {after : Cursor}
    {word : String} (h : Cursor.readToken line source = .token t after)
    (hword : t.kind = .name word) : IsName word := by
  obtain ⟨l, hspelled, hkind⟩ := Cursor.exists_isSpelled_of_readToken h
  obtain ⟨text, rfl, rfl⟩ := eq_name_of_token? (hkind.trans (congrArg some hword))
  exact isName_of_isSpelled hspelled

/-! ## Headers -/

namespace Place

/-- Whether the package clause lies behind a place. -/
def isBehindClause : Place → Bool
  | start => false
  | packageName => false
  | _ => true

end Place

namespace Progress

variable {s s' : Progress} {found : Option TokenKind}

/-- What one step of the automaton can do: leave the header as it is, take the name of the package,
or take an import, the last only behind the package clause. -/
inductive Moved (s : Progress) (found : Option TokenKind) (s' : Progress) : Prop where
  | stays (header : s'.header = s.header)
      (place : s'.place.isBehindClause = s.place.isBehindClause)
  | takesName (word : String) (token : found = some (.name word)) (notBlank : word ≠ "_")
      (notKeyword : isKeyword word = false) (progress : s' = ⟨.lineEnd, ⟨word, s.header.imports⟩⟩)
  | takesImport (literal path : String) (token : found = some (.literal literal))
      (spells : ImportPath.ofLiteral literal = .ok path)
      (before : s.place.isBehindClause = true) (after : s'.place.isBehindClause = true)
      (header : s'.header = ⟨s.header.packageName, s.header.imports ++ [path]⟩)

theorem moved_of_goTo {place : Place} (h : s.goTo place = .ok (some s'))
    (hplace : place.isBehindClause = s.place.isBehindClause) : Moved s found s' := by
  cases h
  exact .stays rfl hplace

theorem moved_of_takeImport {grouped : Bool} {literal : String}
    (hs : s.place.isBehindClause = true)
    (h : s.takeImport grouped literal = .ok (some s')) : Moved s (some (.literal literal)) s' := by
  unfold takeImport at h
  split at h
  · cases h
  · rename_i path hpath
    cases h
    refine .takesImport literal path rfl hpath hs ?_ rfl
    cases grouped <;> rfl

theorem moved_of_startImport {grouped : Bool} (hs : s.place.isBehindClause = true)
    (h : s.startImport grouped found = .ok (some s')) : Moved s found s' := by
  unfold startImport at h
  split at h
  · exact moved_of_goTo h hs.symm
  · split_ifs at h
    exact moved_of_goTo h hs.symm
  · exact moved_of_takeImport hs h
  · cases h

theorem moved_of_startStep (hplace : s.place = .start)
    (h : s.startStep found = .ok (some s')) : Moved s found s' := by
  unfold startStep at h
  split at h
  · exact moved_of_goTo h (by rw [hplace])
  · split_ifs at h
    exact moved_of_goTo h (by rw [hplace]; rfl)
  · cases h

theorem moved_of_packageNameStep (h : s.packageNameStep found = .ok (some s')) :
    Moved s found s' := by
  unfold packageNameStep at h
  split at h
  · rename_i word
    split_ifs at h with hblank hkeyword
    cases h
    exact .takesName word rfl hblank (eq_false_of_ne_true hkeyword) rfl
  · cases h

section

variable (hs : s.place.isBehindClause = true)

include hs

theorem moved_of_lineEndStep (h : s.lineEndStep found = .ok (some s')) : Moved s found s' := by
  unfold lineEndStep at h
  split at h
  · exact moved_of_goTo h hs.symm
  · exact moved_of_goTo h hs.symm
  · cases h
  · cases h

theorem moved_of_declarationStep (h : s.declarationStep found = .ok (some s')) :
    Moved s found s' := by
  unfold declarationStep at h
  split at h
  · exact moved_of_goTo h hs.symm
  · exact moved_of_goTo h hs.symm
  · split_ifs at h
    · exact moved_of_goTo h hs.symm
    · cases h
  · cases h

theorem moved_of_importKeywordStep (h : s.importKeywordStep found = .ok (some s')) :
    Moved s found s' := by
  unfold importKeywordStep at h
  split at h
  · exact moved_of_goTo h hs.symm
  · exact moved_of_goTo h hs.symm
  · exact moved_of_startImport hs h

theorem moved_of_importPathStep {grouped : Bool}
    (h : s.importPathStep grouped found = .ok (some s')) : Moved s found s' := by
  unfold importPathStep at h
  split at h
  · exact moved_of_takeImport hs h
  · cases h

theorem moved_of_groupItemStep (h : s.groupItemStep found = .ok (some s')) :
    Moved s found s' := by
  unfold groupItemStep at h
  split at h
  · exact moved_of_goTo h hs.symm
  · exact moved_of_goTo h hs.symm
  · exact moved_of_goTo h hs.symm
  · exact moved_of_startImport hs h

theorem moved_of_groupItemEndStep (h : s.groupItemEndStep found = .ok (some s')) :
    Moved s found s' := by
  unfold groupItemEndStep at h
  split at h
  · exact moved_of_goTo h hs.symm
  · exact moved_of_goTo h hs.symm
  · exact moved_of_goTo h hs.symm
  · cases h

end

/-- Each step of the automaton moves in one of the three ways. -/
theorem moved_of_step (h : s.step found = .ok (some s')) : Moved s found s' := by
  unfold step at h
  split at h <;> rename_i hplace
  · exact moved_of_startStep hplace h
  · exact moved_of_packageNameStep h
  · exact moved_of_lineEndStep (by rw [hplace]; rfl) h
  · exact moved_of_declarationStep (by rw [hplace]; rfl) h
  · exact moved_of_importKeywordStep (by rw [hplace]; rfl) h
  · exact moved_of_importPathStep (by rw [hplace]; rfl) h
  · exact moved_of_groupItemStep (by rw [hplace]; rfl) h
  · exact moved_of_groupItemEndStep (by rw [hplace]; rfl) h

/-- A header is complete only behind the package clause. -/
theorem isBehindClause_of_step_none (h : s.step found = .ok none) :
    s.place.isBehindClause = true := by
  unfold step at h
  split at h <;> rename_i hplace
  · unfold startStep at h
    split at h
    · cases h
    · split_ifs at h
      cases h
    · cases h
  · unfold packageNameStep at h
    split at h
    · split_ifs at h
      cases h
    · cases h
  all_goals rw [hplace]; rfl

/-- What holds at every place the automaton comes to: behind the package clause there is a package
name, and what has been imported could be. -/
structure IsSound (s : Progress) : Prop where
  name : s.place.isBehindClause = true → IsPackageName s.header.packageName
  imports : ∀ i ∈ s.header.imports, IsImportable i

theorem isSound_start : IsSound start := by
  refine ⟨fun h => ?_, fun i hi => ?_⟩
  · cases h
  · cases hi

/-- One step preserves soundness if a name token is spelled as a name. -/
theorem IsSound.step (hs : s.IsSound) (hfound : ∀ word, found = some (.name word) → IsName word)
    (h : s.step found = .ok (some s')) : s'.IsSound := by
  cases moved_of_step h with
  | stays hheader hplace =>
    refine ⟨fun hbehind => ?_, ?_⟩
    · rw [hheader]
      exact hs.name (hplace ▸ hbehind)
    · rw [hheader]
      exact hs.imports
  | takesName word hword hblank hkeyword hprogress =>
    rw [hprogress]
    exact ⟨fun _ => ⟨hfound word hword, hblank, hkeyword⟩, hs.imports⟩
  | takesImport literal path hliteral hpath hbefore hafter hheader =>
    refine ⟨fun _ => ?_, fun i hi => ?_⟩
    · rw [hheader]
      exact hs.name hbefore
    · rw [hheader] at hi
      rcases List.mem_append.1 hi with hi | hi
      · exact hs.imports i hi
      · obtain ⟨-, hne, hlegal⟩ := ImportPath.ofLiteral_eq_ok_iff.1 hpath
        rw [List.mem_singleton.1 hi]
        exact ⟨hne, hlegal⟩

end Progress

namespace Header

/-- What a header declares: a package name, and imports that could be. -/
structure IsSound (h : Header) : Prop where
  name : IsPackageName h.packageName
  imports : ∀ i ∈ h.imports, IsImportable i

theorem isSound_of_read {s : Progress} {cur : Cursor} {header : Header} (hs : s.IsSound)
    (h : read s cur = .ok header) : header.IsSound := by
  -- induction on the tokens left to read; soundness of the place reached carries it
  fun_induction read s cur with
  | case1 => cases h
  | case2 => cases h
  | case3 s cur line hnext next hstep =>
    cases h
    have hnone : next = none := by
      by_contra hne
      obtain ⟨s', rfl⟩ := Option.ne_none_iff_exists'.1 hne
      exact Progress.step_none s s' hstep
    rw [hnone] at hstep
    exact ⟨hs.name (Progress.isBehindClause_of_step_none hstep), hs.imports⟩
  | case4 => cases h
  | case5 s cur t after hnext hstep =>
    cases h
    exact ⟨hs.name (Progress.isBehindClause_of_step_none hstep), hs.imports⟩
  | case6 s cur t after hnext s' hstep ih =>
    refine ih (hs.step ?_ hstep) h
    intro word hword
    exact isName_of_readToken hnext (Option.some.inj hword)

end Header

/-! ## Packages -/

/-- What a directory declares: a package name, and imports that could be and are packages. -/
structure Contents.IsSound (c : Contents) : Prop where
  name : IsPackageName c.name
  imports : ∀ i ∈ c.imports, IsImportable i ∧ i ≠ foreignImport

/-- The rule of a package has the name that the package declares, which is spelled as a name is. -/
theorem Contents.IsSound.isName_targetName {p : Package}
    (h : (⟨p.name, p.imports⟩ : Contents).IsSound) : IsName p.targetName := by
  have hname := h.name.toIsName
  rwa [Package.targetName_of_name hname.ne_empty]

namespace Contents

theorem isSound_packageImports {h : Header} (hh : h.IsSound) :
    ∀ i ∈ h.packageImports, IsImportable i ∧ i ≠ foreignImport := by
  intro i hi
  rw [Header.packageImports, NameSet.mem_ofList, List.mem_filter] at hi
  exact ⟨hh.imports i hi.1, of_decide_eq_true hi.2⟩

theorem isSound_ofHeader {h : Header} (hh : h.IsSound) : (ofHeader h).IsSound := by
  refine ⟨hh.name, fun i hi => ?_⟩
  rcases NameSet.mem_union.1 hi with hi | hi
  · cases hi
  · exact isSound_packageImports hh i hi

theorem isSound_of_add {before c : Contents} {h : Header} (hb : before.IsSound) (hh : h.IsSound)
    (hadd : before.add h = .ok c) : c.IsSound := by
  obtain ⟨-, rfl⟩ := (add_eq_ok_iff hb.name.ne_empty).1 hadd
  refine ⟨hb.name, fun i hi => ?_⟩
  rcases NameSet.mem_union.1 hi with hi | hi
  · exact hb.imports i hi
  · exact isSound_packageImports hh i hi

end Contents

section

variable {σ : Type} {fs : Storage σ} {s : σ}

theorem isSound_of_readHeader {path : Path} {header : Header}
    (h : readHeader fs s path = .ok header) : header.IsSound := by
  unfold readHeader at h
  split at h
  · cases h
  · split at h
    · cases h
    · rename_i hsource
      cases h
      exact Header.isSound_of_read Progress.isSound_start hsource

theorem isSound_of_gather {before c : Contents} {paths : List Path} (hb : before.IsSound)
    (h : gather fs s before paths = .ok c) : c.IsSound := by
  induction paths generalizing before with
  | nil => exact Except.ok.inj h ▸ hb
  | cons path rest ih =>
    rw [gather] at h
    split at h
    · cases h
    · rename_i header hheader
      split at h
      · cases h
      · rename_i contents hcontents
        exact ih (Contents.isSound_of_add hb (isSound_of_readHeader hheader) hcontents) h

theorem isSound_of_directoryContents? {dir : Path} {c : Contents}
    (h : directoryContents? fs s dir = .ok (some c)) : c.IsSound := by
  unfold directoryContents? at h
  split at h
  · cases h
  · rename_i entries _
    generalize (librarySources entries).map (·.path) = paths at h
    cases paths with
    | nil => cases h
    | cons path rest =>
      obtain ⟨header, c, hheader, hgather, hc⟩ := exists_gather_of_gatherAll h
      cases hc
      exact isSound_of_gather (Contents.isSound_ofHeader (isSound_of_readHeader hheader)) hgather

/-- Every package that a scan finds lies under its own import path, which is not empty, and has a
package name and imports that could be packages. -/
theorem isSound_of_scan {vendor : Path} {found : Scan} {e : String × Package}
    (h : scan fs s vendor = .ok found) (he : e ∈ found.packages.entries) :
    e.1 = e.2.importPath ∧ e.1 ≠ "" ∧ (⟨e.2.name, e.2.imports⟩ : Contents).IsSound := by
  obtain ⟨dirs, -, hfound⟩ := found_of_scan h
  obtain ⟨hkey, dir, -, hof⟩ := hfound e.1 e.2 (NameMap.mem_entries_iff.1 he)
  exact ⟨hkey, hkey ▸ hof.ne_empty, isSound_of_directoryContents? hof.contents⟩

/-- Every package of a tree lies under its own import path, which is not empty, and has a package
name and imports that could be packages. -/
theorem isSound_of_discover {vendor : Path} {packages : PackageSet} {e : String × Package}
    (h : discover fs s vendor = .ok packages) (he : e ∈ packages.entries) :
    e.1 = e.2.importPath ∧ e.1 ≠ "" ∧ (⟨e.2.name, e.2.imports⟩ : Contents).IsSound := by
  obtain ⟨found, hscan, rfl⟩ := exists_scan_of_discover h
  exact isSound_of_scan hscan he

/-- What a scan finds, whatever bytes the files hold. Every package is listed under its own import
path, which is not empty. Its name is that of its rule: it starts as a name does, goes on as one,
and is neither blank nor a keyword. What it imports is not empty, does not stand for C code, and
holds no control character, no white space and none of the marks that no import path holds, among
which are the colon, the comma, the quotes, the backslash and the replacement character. -/
theorem packages_of_scan_are_sound {vendor : Path} {found : Scan}
    (h : scan fs s vendor = .ok found) :
    ∀ e ∈ found.packages.entries,
      e.2.importPath = e.1 ∧ e.1 ≠ "" ∧
      (∃ c rest, e.2.name.toList = c :: rest ∧ (c = '_' ∨ Text.isAlphabetic c = true) ∧
        ∀ d ∈ rest, d = '_' ∨ Text.isAlphabetic d = true ∨ Text.isNumeric d = true) ∧
      e.2.name ∉ keywords ∧ e.2.name ≠ "_" ∧ e.2.targetName = e.2.name ∧
      ∀ i ∈ e.2.imports, i ≠ "" ∧ i ≠ foreignImport ∧
        ∀ c ∈ i.toList, Text.isControl c = false ∧ Text.isBlank c = false ∧
          c ∉ ImportPath.illegalMarks ∧ c ∉ ":,\"'`\\\uFFFD".toList := by
  intro e he
  obtain ⟨hkey, hne, hsound⟩ := isSound_of_scan h he
  have hname := hsound.name
  obtain ⟨c, rest, htext, hstart⟩ := hname.start
  have hrest : ∀ d ∈ rest, isNamePart d = true := fun d hd =>
    hname.parts d (by rw [htext]; exact List.mem_cons_of_mem _ hd)
  refine ⟨hkey.symm, hne, ⟨c, rest, htext, ?_, ?_⟩, ?_, hname.ne_blank,
    Package.targetName_of_name hname.ne_empty, ?_⟩
  · simpa [isNameStart] using hstart
  · intro d hd
    simpa [isNamePart, isNameStart, or_assoc] using hrest d hd
  · simpa [isKeyword] using hname.not_keyword
  · intro i hi
    obtain ⟨himport, hforeign⟩ := hsound.imports i hi
    refine ⟨himport.ne_empty, hforeign, fun c hc => ?_⟩
    obtain ⟨⟨hcontrol, hblank⟩, hmark⟩ :
        (Text.isControl c = false ∧ Text.isBlank c = false) ∧ c ∉ ImportPath.illegalMarks := by
      simpa [ImportPath.isIllegal] using himport.legal c hc
    exact ⟨hcontrol, hblank, hmark, fun hc => hmark (mem_illegalMarks hc)⟩

end

/-- A vendored package whose source spells its imports with escapes, C code among them. -/
def escapedImports : FlatStore :=
  (FlatStore.empty ⟨"/r"⟩).addFile ⟨"vendor/a/a.go"⟩
    (Utf8.encode "package _a9\nimport (\"\\103\"; \"x\\u002fy\")\n")

theorem packages_of_scan_are_sound_escapedImports :
    ∃ found, scan FlatStore.storage escapedImports ⟨"/r/vendor"⟩ = .ok found ∧
      found.packages.entries.map (fun e => (e.1, e.2.name, e.2.imports.toList)) =
        [("a", "_a9", ["x/y"])] ∧
      ∀ e ∈ found.packages.entries, e.2.name ∉ keywords ∧ e.2.targetName = e.2.name ∧
        ∀ i ∈ e.2.imports, i ≠ foreignImport := by
  have hfound : (scan FlatStore.storage escapedImports ⟨"/r/vendor"⟩).toOption.map
      (fun found => found.packages.entries.map fun e => (e.1, e.2.name, e.2.imports.toList)) =
        some [("a", "_a9", ["x/y"])] := by decide +kernel
  cases hscan : scan FlatStore.storage escapedImports ⟨"/r/vendor"⟩ with
  | error fault =>
    rw [hscan] at hfound
    cases hfound
  | ok found =>
    rw [hscan] at hfound
    refine ⟨found, rfl, Option.some.inj hfound, fun e he => ?_⟩
    obtain ⟨-, -, -, hkeyword, -, htarget, himports⟩ := packages_of_scan_are_sound hscan e he
    exact ⟨hkeyword, htarget, fun i hi => (himports i hi).2.1⟩

end VendorBuild
