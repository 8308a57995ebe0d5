import VendorBuild.Proofs.Placement
import VendorBuild.Proofs.Survey
import VendorBuild.Proofs.Utf8
import VendorBuild.Run

/-!
# What a run leaves behind

A run over the flat store writes the build files of all packages found, in the order of their import
paths. Each goes to a place of its own, so none is lost to another. A write can fail in three ways
only: it is denied, or the directory of the package has become a file, because its path is that of
the build file of a package before it, or the import path of the package leads to no directory,
because the names on the way to the package are no texts. Up to the first package that is blocked in
one of these ways everything is written, and nothing else changes.

Results:
* `writeAll_emission`: how far the build files of the packages found get written.
* `run_writes_every_package`: what a run that succeeds leaves behind, and what it reports.
* `run_stops_at_first_blocked`: where a run that fails stops, and what it leaves behind.
* `run_stops_at_byteNamed`: a run that stops at a package whose directory is there.
-/

namespace VendorBuild

/-! ## Places, texts and obstacles -/

section

variable (settings : Settings) (packages : PackageSet)

/-- Where the build file of the package at an import path belongs. -/
def buildPlace (importPath : String) : List Component :=
  (settings.vendorDir / importPath / settings.buildFileName).components

/-- The build of a package whose dependencies are told from all packages. -/
def plannedBuild (p : Package) : Build := ⟨p, p.labels packages.targetNames settings.cell⟩

/-- The text of the build file of a package. -/
def buildText (p : Package) : String := (plannedBuild settings packages p).rule.render

/-- What a run reports of a package. -/
def reportedFile (e : String × Package) : GeneratedFile where
  displayPath := settings.vendorName ++ "/" ++ e.1 ++ "/" ++ settings.buildFileName
  labels := e.2.labels packages.targetNames settings.cell

/-- One store is another in which exactly the build files of some packages have been written. -/
structure BuildsWritten (done : List (String × Package)) (s s' : FlatStore) : Prop where
  root : s'.root = s.root
  denied : s'.denied = s.denied
  written : ∀ e ∈ done, s'.findAt? (buildPlace settings e.1) =
    some (.file (Utf8.encode (buildText settings packages e.2)))
  kept : ∀ place, (∀ e ∈ done, buildPlace settings e.1 ≠ place) → s'.findAt? place = s.findAt? place

/-- Whether the build file of the package at an import path cannot be written in a run from `s`:
writing it is denied, or its directory is where the build file of another package goes, or no
directory is where its import path leads. -/
def Blocked (s : FlatStore) (importPath : String) : Prop :=
  s.isDenied (settings.vendorDir / importPath / settings.buildFileName) = true ∨
    (∃ other, packages.contains other = true ∧
      importPath = other ++ "/" ++ settings.buildFileName) ∨
    s.findAt? (settings.vendorDir.components ++ Path.steps importPath) ≠ some .directory

/-- Why the build file of a package that is blocked cannot be written. -/
def blockFault (s : FlatStore) (importPath : String) : StorageFault :=
  let path := buildPath settings.vendorDir importPath settings.buildFileName
  if s.isDenied path then .permissionDenied path else .parentNotFound path

end

theorem Settings.isAbsolute_vendorDir {settings : Settings}
    (h : settings.root.isAbsolute = true) : settings.vendorDir.isAbsolute = true := by
  rw [vendorDir, Path.slash_ofString, Path.slash_def]
  by_cases hname : (⟨settings.vendorName⟩ : Path).isAbsolute = true
  · rwa [Path.join, if_pos hname]
  · exact (Path.components_join h (eq_false_of_ne_true hname)).1

theorem plan_eq_map (settings : Settings) (packages : PackageSet) :
    plan packages settings.cell =
      packages.entries.map fun e => plannedBuild settings packages e.2 := by
  rw [plan, NameMap.values, List.map_map]
  rfl

theorem BuildsWritten.refl (settings : Settings) (packages : PackageSet) (s : FlatStore) :
    BuildsWritten settings packages [] s s :=
  ⟨rfl, rfl, fun _ h => absurd h List.not_mem_nil, fun _ _ => rfl⟩

/-! ## The packages of a run -/

/-- The packages found in a store, under settings with which build files have places. -/
structure Discovered (settings : Settings) (s : FlatStore) (packages : PackageSet) : Prop where
  vendor : settings.vendorDir.isAbsolute = true
  name : IsPlainName settings.buildFileName
  found : discover FlatStore.storage s settings.vendorDir = .ok packages

namespace Discovered

variable {settings : Settings} {s : FlatStore} {packages : PackageSet} {e d : String × Package}

theorem place (h : Discovered settings s packages) (he : e ∈ packages.entries) :
    e.1 = e.2.importPath ∧ e.1 ≠ "" ∧ IsImportPath e.1 ∧
      ∃ steps, HasSources s settings.vendorDir steps ∧
        Path.steps e.1 = steps.map Component.reading :=
  place_of_discover FlatStore.upToOrder_storage h.vendor h.found he

theorem buildPlace_eq (h : Discovered settings s packages) (he : e ∈ packages.entries) :
    buildPlace settings e.1 =
      settings.vendorDir.components ++ Path.steps e.1 ++ [.name settings.buildFileName] :=
  (h.place he).2.2.1.components_join_join h.vendor h.name

theorem eq_of_buildPlace_eq (h : Discovered settings s packages) (he : e ∈ packages.entries)
    (hd : d ∈ packages.entries) (hplace : buildPlace settings e.1 = buildPlace settings d.1) :
    e.1 = d.1 := by
  rw [h.buildPlace_eq he, h.buildPlace_eq hd] at hplace
  have hsteps := List.append_cancel_left (List.append_cancel_right hplace)
  exact (h.place he).2.2.1.eq_of_steps_eq (h.place hd).2.2.1 hsteps

/-- The build file of one package goes where the directory of another is exactly if the import path
of the other continues that of the one by the name of the build file. -/
theorem buildPlace_eq_directory_iff (h : Discovered settings s packages)
    (hd : d ∈ packages.entries) (he : e ∈ packages.entries) :
    buildPlace settings d.1 = settings.vendorDir.components ++ Path.steps e.1 ↔
      e.1 = d.1 ++ "/" ++ settings.buildFileName := by
  obtain ⟨-, hne, hpath, -⟩ := h.place hd
  rw [← hpath.steps_eq_append_iff (h.place he).2.2.1 hne h.name, h.buildPlace_eq hd,
    List.append_assoc]
  exact ⟨fun heq => (List.append_cancel_left heq).symm, fun heq => by rw [heq]⟩

theorem file_eq (h : Discovered settings s packages) (he : e ∈ packages.entries) :
    ((plannedBuild settings packages e.2).file settings).path =
        buildPath settings.vendorDir e.1 settings.buildFileName ∧
      (buildPath settings.vendorDir e.1 settings.buildFileName).isAbsolute = true ∧
      (buildPath settings.vendorDir e.1 settings.buildFileName).components =
        buildPlace settings e.1 := by
  obtain ⟨habs, hcomp⟩ := components_buildPath h.vendor h.name e.1
  refine ⟨?_, habs, by rw [hcomp, h.buildPlace_eq he]⟩
  rw [(h.place he).1]
  rfl

end Discovered

/-! ## One write -/

theorem lt_append_slash (other name : String) : other < other ++ "/" ++ name := by
  rw [String.lt_iff, String.append_assoc, String.toList_append, String.toList_append]
  have hlt : other.toList ++ [] < other.toList ++ ("/".toList ++ name.toList) :=
    List.append_left_lt (List.nil_lt_cons '/' name.toList)
  rwa [List.append_nil] at hlt

theorem FlatStore.isDenied_congr {s s' : FlatStore} {p q : Path} (hs : s'.denied = s.denied)
    (h : p.components = q.components) : s'.isDenied p = s.isDenied q := by
  rw [isDenied, isDenied, hs, h]

theorem FlatStore.hasParent_iff {s : FlatStore} {p : Path} {place : List Component} {name : RawText}
    (h : p.components = place ++ [.name name]) :
    s.hasParent p = true ↔ s.findAt? place = some .directory := by
  have hparent : p.parent? = some place := by
    rw [Path.parent?, h, List.getLast?_concat, List.dropLast_concat]
  rw [hasParent, hparent, decide_eq_true_eq]

theorem FlatStore.write_of_isAbsolute (s : FlatStore) {p : Path} (h : p.isAbsolute = true)
    (text : String) :
    s.write p text =
      if s.isDenied p then .error (.permissionDenied p)
      else if s.hasParent p then .ok (s.put p (.file (Utf8.encode text)))
      else .error (.parentNotFound p) := by
  rw [write, locate, if_pos h]

theorem BuildsWritten.put {settings : Settings} {packages : PackageSet} {s s' : FlatStore}
    {done : List (String × Package)} {e : String × Package} {p : Path}
    (hs : BuildsWritten settings packages done s s') (hp : p.components = buildPlace settings e.1)
    (hnew : ∀ d ∈ done, buildPlace settings d.1 ≠ buildPlace settings e.1) :
    BuildsWritten settings packages (done ++ [e]) s
      (s'.put p (.file (Utf8.encode (buildText settings packages e.2)))) := by
  refine ⟨hs.root, hs.denied, ?_, ?_⟩
  · intro d hd
    rw [FlatStore.findAt?_put, hp]
    rcases List.mem_append.1 hd with hd | hd
    · rw [if_neg (Ne.symm (hnew d hd)), hs.written d hd]
    · rw [List.mem_singleton.1 hd, if_pos rfl]
  · intro place hplace
    have hne : buildPlace settings e.1 ≠ place := hplace e (List.mem_append_right _ (by simp))
    rw [FlatStore.findAt?_put, hp, if_neg hne]
    exact hs.kept place fun d hd => hplace d (List.mem_append_left _ hd)

namespace Discovered

variable {settings : Settings} {s s' : FlatStore} {packages : PackageSet}
  {done rest : List (String × Package)} {e d : String × Package}

theorem mem_of_split (hsplit : packages.entries = done ++ e :: rest) :
    e ∈ packages.entries ∧ ∀ d ∈ done, d ∈ packages.entries ∧ d.1 < e.1 := by
  have hsorted := packages.increasing
  rw [hsplit] at hsorted ⊢
  have hbefore := (List.pairwise_append.1 hsorted).2.2
  refine ⟨by simp, fun d hd => ⟨List.mem_append_left _ hd, hbefore d hd e List.mem_cons_self⟩⟩

/-- A package whose import path another one continues comes before it. -/
theorem mem_done_of_continues (hsplit : packages.entries = done ++ e :: rest)
    (hd : d ∈ packages.entries) {name : String} (he : e.1 = d.1 ++ "/" ++ name) : d ∈ done := by
  have hlt : d.1 < e.1 := he ▸ lt_append_slash d.1 name
  have hsorted := packages.increasing
  rw [hsplit] at hsorted hd
  have hafter := (List.pairwise_append.1 hsorted).2.1
  rcases List.mem_append.1 hd with hd | hd
  · exact hd
  rcases List.mem_cons.1 hd with rfl | hd
  · exact absurd hlt (String.lt_irrefl _)
  · have hgt : e.1 < d.1 := (List.pairwise_cons.1 hafter).1 d hd
    exact absurd (String.lt_trans hlt hgt) (String.lt_irrefl _)

/-- After the packages before it have been written, the directory of a package is there exactly if
it was there before and none of their build files went to its place. -/
theorem hasParent_iff (h : Discovered settings s packages)
    (hsplit : packages.entries = done ++ e :: rest)
    (hs : BuildsWritten settings packages done s s') :
    s'.hasParent (buildPath settings.vendorDir e.1 settings.buildFileName) = true ↔
      ¬ ((∃ other, packages.contains other = true ∧
          e.1 = other ++ "/" ++ settings.buildFileName) ∨
        s.findAt? (settings.vendorDir.components ++ Path.steps e.1) ≠ some .directory) := by
  obtain ⟨he, hdone⟩ := mem_of_split hsplit
  obtain ⟨-, -, hcomp⟩ := h.file_eq he
  rw [FlatStore.hasParent_iff (hcomp.trans (h.buildPlace_eq he)), not_or, not_not]
  constructor
  · intro hfound
    have hnot : ∀ d ∈ done, buildPlace settings d.1 ≠
        settings.vendorDir.components ++ Path.steps e.1 := by
      intro d hd heq
      have hfile := hs.written d hd
      rw [heq, hfound] at hfile
      cases hfile
    refine ⟨?_, by rw [← hs.kept _ hnot, hfound]⟩
    rintro ⟨other, hother, heq⟩
    obtain ⟨p, hp⟩ := Option.isSome_iff_exists.1 hother
    have hmem : (other, p) ∈ packages.entries := NameMap.mem_entries_iff.2 hp
    exact hnot _ (mem_done_of_continues hsplit hmem heq)
      ((h.buildPlace_eq_directory_iff hmem he).2 heq)
  · rintro ⟨hnone, hdir⟩
    rw [← hdir]
    apply hs.kept
    intro d hd heq
    obtain ⟨hmem, -⟩ := hdone d hd
    refine hnone ⟨d.1, ?_, (h.buildPlace_eq_directory_iff hmem he).1 heq⟩
    exact Option.isSome_iff_exists.2 ⟨d.2, NameMap.mem_entries_iff.1 hmem⟩

/-- The build file of a package is written unless the package is blocked. -/
theorem write_eq (h : Discovered settings s packages)
    (hsplit : packages.entries = done ++ e :: rest)
    (hs : BuildsWritten settings packages done s s') :
    (Blocked settings packages s e.1 ∧
      (plannedBuild settings packages e.2).write FlatStore.storage settings s' =
        .error (blockFault settings s e.1)) ∨
    (¬ Blocked settings packages s e.1 ∧
      ∃ s'', (plannedBuild settings packages e.2).write FlatStore.storage settings s' =
          .ok ((plannedBuild settings packages e.2).file settings, s'') ∧
        BuildsWritten settings packages (done ++ [e]) s s'') := by
  obtain ⟨he, hdone⟩ := mem_of_split hsplit
  obtain ⟨hpath, habs, hcomp⟩ := h.file_eq he
  have hwrite := FlatStore.write_of_isAbsolute s' habs (buildText settings packages e.2)
  have hparent := h.hasParent_iff hsplit hs
  have hbuild : (plannedBuild settings packages e.2).write FlatStore.storage settings s' =
      (s'.write (buildPath settings.vendorDir e.1 settings.buildFileName)
        (buildText settings packages e.2)).map
          fun s'' => ((plannedBuild settings packages e.2).file settings, s'') := by
    rw [Build.write, hpath, Build.text_file, FlatStore.storage, ← buildText]
  have hdenied : ∀ q : Path, q.components = buildPlace settings e.1 →
      s.isDenied q = s'.isDenied (buildPath settings.vendorDir e.1 settings.buildFileName) :=
    fun q hq => FlatStore.isDenied_congr hs.denied.symm (hq.trans hcomp.symm)
  rw [hbuild, hwrite, Blocked, hdenied _ rfl, blockFault, hdenied _ hcomp]
  by_cases hden : s'.isDenied (buildPath settings.vendorDir e.1 settings.buildFileName) = true
  · left
    rw [if_pos hden, if_pos hden]
    exact ⟨.inl hden, rfl⟩
  rw [if_neg hden, if_neg hden]
  by_cases hpar : s'.hasParent (buildPath settings.vendorDir e.1 settings.buildFileName) = true
  · right
    rw [if_pos hpar]
    refine ⟨fun hblocked => hblocked.elim hden (hparent.1 hpar), _, rfl, hs.put hcomp ?_⟩
    intro d hd heq
    obtain ⟨hmem, hlt⟩ := hdone d hd
    have hkey : d.1 = e.1 := h.eq_of_buildPlace_eq hmem he heq
    exact absurd (hkey ▸ hlt) (String.lt_irrefl _)
  · left
    rw [if_neg hpar]
    exact ⟨.inr (not_not.1 (mt hparent.2 hpar)), rfl⟩

end Discovered

/-! ## All writes -/

/-- How far the build files of the packages `todo` get written after those of the packages `done`:
all of them, or up to the first package that is blocked. -/
inductive Emission (settings : Settings) (packages : PackageSet) (s : FlatStore)
    (done todo : List (String × Package)) (result : Except RunFault Report) (s' : FlatStore) :
    Prop where
  | complete (free : ∀ e ∈ todo, ¬ Blocked settings packages s e.1)
      (reported : result = .ok (todo.map (reportedFile settings packages)))
      (builds : BuildsWritten settings packages (done ++ todo) s s')
  | stopped (before : List (String × Package)) (e : String × Package)
      (after : List (String × Package)) (split : todo = before ++ e :: after)
      (free : ∀ d ∈ before, ¬ Blocked settings packages s d.1)
      (blocked : Blocked settings packages s e.1)
      (reported : result =
        .error (.writing settings.buildFileName e.1 (blockFault settings s e.1)))
      (builds : BuildsWritten settings packages (done ++ before) s s')

theorem Emission.cons {settings : Settings} {packages : PackageSet} {s s' : FlatStore}
    {done todo : List (String × Package)} {e : String × Package} {result : Except RunFault Report}
    (h : Emission settings packages s (done ++ [e]) todo result s')
    (hfree : ¬ Blocked settings packages s e.1) :
    Emission settings packages s done (e :: todo)
      (result.map (reportedFile settings packages e :: ·)) s' := by
  obtain ⟨free, rfl, builds⟩ | ⟨before, d, after, rfl, free, blocked, rfl, builds⟩ := h
  · refine .complete (List.forall_mem_cons.2 ⟨hfree, free⟩) rfl ?_
    rwa [List.append_cons]
  · refine .stopped (e :: before) d after rfl (List.forall_mem_cons.2 ⟨hfree, free⟩) blocked rfl ?_
    rwa [List.append_cons]

/-- The build files of the packages found get written up to the first package that is blocked. -/
theorem writeAll_emission {settings : Settings} {packages : PackageSet} {s s' : FlatStore}
    {done todo : List (String × Package)} (h : Discovered settings s packages)
    (hsplit : packages.entries = done ++ todo)
    (hs : BuildsWritten settings packages done s s') :
    let o := writeAll FlatStore.storage settings
      (todo.map fun e => plannedBuild settings packages e.2) s'
    Emission settings packages s done todo o.result o.state := by
  intro o
  induction todo generalizing done s' with
  | nil =>
    refine .complete (fun _ he => absurd he List.not_mem_nil) rfl ?_
    rwa [List.append_nil]
  | cons e rest ih =>
    have he : e ∈ packages.entries := (Discovered.mem_of_split hsplit).1
    have hkey : e.1 = e.2.importPath := (h.place he).1
    have ho : o = writeAll FlatStore.storage settings (plannedBuild settings packages e.2 ::
        rest.map fun e => plannedBuild settings packages e.2) s' := rfl
    rw [ho, writeAll]
    rcases h.write_eq hsplit hs with ⟨hblocked, hwrite⟩ | ⟨hfree, s'', hwrite, hs''⟩
    · rw [hwrite]
      refine .stopped [] e rest rfl (fun _ hd => absurd hd List.not_mem_nil) hblocked ?_ ?_
      · rw [hkey]
        rfl
      · rwa [List.append_nil]
    · rw [hwrite]
      have hfile : (plannedBuild settings packages e.2).generated settings =
          reportedFile settings packages e := by
        rw [reportedFile, hkey]
        rfl
      rw [hfile]
      exact (ih (by rw [hsplit, List.append_cons]) hs'').cons hfree

/-! ## Runs -/

section

variable {σ : Type} {fs : Storage σ} {settings : Settings} {s : σ}

/-- A run that cannot tell the packages stops there and changes nothing. -/
theorem run_of_discover_error {cause : DiscoveryFault}
    (h : discover fs s settings.vendorDir = .error cause) :
    (run fs settings s).result = .error (.discovery cause) ∧ (run fs settings s).state = s := by
  obtain hcheck | ⟨hcheck, hscan⟩ := discover_eq_error_iff.1 h
  · simp only [run, hcheck, and_self]
  · simp only [run, hcheck, hscan, and_self]

theorem build_eq_writeAll (packages : PackageSet) :
    (build fs settings packages s).result =
        (writeAll fs settings (plan packages settings.cell) s).result ∧
      (build fs settings packages s).state =
        (writeAll fs settings (plan packages settings.cell) s).state := by
  cases hresult : (writeAll fs settings (plan packages settings.cell) s).result with
  | error fault => simp only [build, hresult, and_self]
  | ok report => simp only [build, hresult, and_self]

/-- A run that can tell the packages writes their build files. -/
theorem run_of_discover_ok {packages : PackageSet}
    (h : discover fs s settings.vendorDir = .ok packages) :
    (run fs settings s).result =
        (writeAll fs settings (plan packages settings.cell) s).result ∧
      (run fs settings s).state =
        (writeAll fs settings (plan packages settings.cell) s).state := by
  rw [← (build_eq_writeAll packages).1, ← (build_eq_writeAll packages).2]
  obtain ⟨hcheck, found, hscan, rfl⟩ := discover_eq_ok_iff_scan.1 h
  simp only [run, hcheck, hscan]
  exact ⟨rfl, rfl⟩

end

section

variable {settings : Settings} {s : FlatStore} {packages : PackageSet}

/-- A run that can tell the packages writes the build files of all of them, or those before the
first that is blocked. -/
theorem run_emission (hroot : settings.root.isAbsolute = true)
    (hname : IsPlainName settings.buildFileName)
    (hfound : discover FlatStore.storage s settings.vendorDir = .ok packages) :
    Emission settings packages s [] packages.entries (run FlatStore.storage settings s).result
      (run FlatStore.storage settings s).state := by
  obtain ⟨hresult, hstate⟩ := run_of_discover_ok hfound
  rw [hresult, hstate, plan_eq_map]
  exact writeAll_emission ⟨Settings.isAbsolute_vendorDir hroot, hname, hfound⟩ rfl (.refl ..)

theorem complete_of_run_ok {report : Report} (hroot : settings.root.isAbsolute = true)
    (hname : IsPlainName settings.buildFileName)
    (hrun : (run FlatStore.storage settings s).result = .ok report) :
    ∃ packages, discover FlatStore.storage s settings.vendorDir = .ok packages ∧
      BuildsWritten settings packages packages.entries s
        (run FlatStore.storage settings s).state ∧
      report = packages.entries.map (reportedFile settings packages) := by
  cases hfound : discover FlatStore.storage s settings.vendorDir with
  | error cause =>
    rw [(run_of_discover_error hfound).1] at hrun
    cases hrun
  | ok packages =>
    obtain ⟨-, hresult, builds⟩ | ⟨_, _, _, _, _, _, hresult, _⟩ := run_emission hroot hname hfound
    · rw [hresult] at hrun
      exact ⟨packages, rfl, builds, (Except.ok.inj hrun).symm⟩
    · rw [hresult] at hrun
      cases hrun

/-- A run that succeeds leaves the build file of every package found at its place, with the
dependencies told from all packages, and everything else as it was. It reports each package once, in
the order of the bytes of the import paths. -/
theorem run_writes_every_package {report : Report} (hroot : settings.root.isAbsolute = true)
    (hname : IsPlainName settings.buildFileName)
    (hrun : (run FlatStore.storage settings s).result = .ok report) :
    ∃ packages, discover FlatStore.storage s settings.vendorDir = .ok packages ∧
      (∀ e ∈ packages.entries,
        (run FlatStore.storage settings s).state.findAt? (buildPlace settings e.1) =
          some (.file (Utf8.encode (buildText settings packages e.2)))) ∧
      (∀ place, (∀ e ∈ packages.entries, buildPlace settings e.1 ≠ place) →
        (run FlatStore.storage settings s).state.findAt? place = s.findAt? place) ∧
      report = packages.entries.map (reportedFile settings packages) ∧
      packages.entries.Pairwise fun a b => Utf8.encode a.1 < Utf8.encode b.1 := by
  obtain ⟨packages, hfound, builds, hreport⟩ := complete_of_run_ok hroot hname hrun
  have hsorted := packages.increasing.imp Utf8.encode_lt_encode
  exact ⟨packages, hfound, builds.written, builds.kept, hreport, hsorted⟩

/-- A vendored tree of two packages, the first of which imports the second. -/
def twoPackages : FlatStore :=
  ((FlatStore.empty ⟨"/r"⟩).addFile ⟨"vendor/a/a.go"⟩
    (Utf8.encode "package a\nimport \"b\"\n")).addFile ⟨"vendor/b/b.go"⟩ (Utf8.encode "package b\n")

theorem isPlainName_default : IsPlainName "BUCK" := by
  constructor <;> decide

theorem run_twoPackages :
    (run FlatStore.storage { root := ⟨"/r"⟩ } twoPackages).result =
      .ok [⟨"vendor/a/BUCK", ["//vendor/b:b"]⟩, ⟨"vendor/b/BUCK", []⟩] := by
  decide +kernel

theorem twoPackages_written :
    ∃ packages, discover FlatStore.storage twoPackages ⟨"/r/vendor"⟩ = .ok packages ∧
      (∀ e ∈ packages.entries,
        (run FlatStore.storage { root := ⟨"/r"⟩ } twoPackages).state.findAt?
            (buildPlace { root := ⟨"/r"⟩ } e.1) =
          some (.file (Utf8.encode (buildText { root := ⟨"/r"⟩ } packages e.2)))) ∧
      [⟨"vendor/a/BUCK", ["//vendor/b:b"]⟩, ⟨"vendor/b/BUCK", []⟩] =
        packages.entries.map (reportedFile { root := ⟨"/r"⟩ } packages) := by
  obtain ⟨packages, hfound, hwritten, -, hreport, -⟩ :=
    run_writes_every_package (by decide) isPlainName_default run_twoPackages
  exact ⟨packages, hfound, hwritten, hreport⟩

/-- A run that fails either cannot tell the packages and changes nothing, or stops at the first
package that is blocked, with the build files of those before it written and nothing else changed. A
run that can tell the packages succeeds if none of them is blocked. Where names are texts, a package
is blocked only if writing its build file is denied or its directory is where another build file
goes. -/
theorem run_stops_at_first_blocked (hroot : settings.root.isAbsolute = true)
    (hname : IsPlainName settings.buildFileName) :
    (∀ fault, (run FlatStore.storage settings s).result = .error fault →
      (∃ cause, discover FlatStore.storage s settings.vendorDir = .error cause ∧
        fault = .discovery cause ∧
        fault.message = "collect vendor packages: " ++ cause.message ∧
        (run FlatStore.storage settings s).state = s) ∨
      ∃ packages before e after,
        discover FlatStore.storage s settings.vendorDir = .ok packages ∧
        packages.entries = before ++ e :: after ∧
        (∀ d ∈ before, ¬ Blocked settings packages s d.1) ∧
        Blocked settings packages s e.1 ∧
        fault = .writing settings.buildFileName e.1 (blockFault settings s e.1) ∧
        fault.message = "write " ++ settings.buildFileName ++ " for " ++ e.1 ++ ": " ++
          (blockFault settings s e.1).message ∧
        BuildsWritten settings packages before s (run FlatStore.storage settings s).state) ∧
    (∀ packages, discover FlatStore.storage s settings.vendorDir = .ok packages →
      (∀ e ∈ packages.entries, ¬ Blocked settings packages s e.1) →
      ∃ report, (run FlatStore.storage settings s).result = .ok report) ∧
    (TextNames s settings.vendorDir →
      ∀ packages, discover FlatStore.storage s settings.vendorDir = .ok packages →
        ∀ e ∈ packages.entries, Blocked settings packages s e.1 ↔
          s.isDenied (settings.vendorDir / e.1 / settings.buildFileName) = true ∨
            ∃ other, packages.contains other = true ∧
              e.1 = other ++ "/" ++ settings.buildFileName) := by
  refine ⟨?_, ?_, ?_⟩
  · intro fault hrun
    cases hfound : discover FlatStore.storage s settings.vendorDir with
    | error cause =>
      obtain ⟨hresult, hstate⟩ := run_of_discover_error hfound
      obtain rfl : fault = .discovery cause := Except.error.inj (hrun.symm.trans hresult)
      exact .inl ⟨cause, rfl, rfl, rfl, hstate⟩
    | ok packages =>
      right
      obtain ⟨-, hresult, -⟩ | ⟨before, e, after, split, free, blocked, hresult, builds⟩ :=
        run_emission hroot hname hfound
      · rw [hresult] at hrun
        cases hrun
      · obtain rfl := Except.error.inj (hrun.symm.trans hresult)
        exact ⟨packages, before, e, after, rfl, split, free, blocked, rfl, rfl, builds⟩
  · intro packages hfound hfree
    obtain ⟨-, hresult, -⟩ | ⟨before, e, after, split, -, blocked, -, -⟩ :=
      run_emission hroot hname hfound
    · exact ⟨_, hresult⟩
    · exact absurd blocked (hfree e (by simp [split]))
  · intro htexts packages hfound e he
    have hthere := directory_of_discover FlatStore.upToOrder_storage
      (Settings.isAbsolute_vendorDir hroot) htexts hfound he
    simp only [Blocked, ne_eq, hthere, not_true_eq_false, or_false]

/-- The same tree in which one of the build files cannot be written. -/
def deniedPackages : FlatStore := twoPackages.deny ⟨"vendor/b/BUCK"⟩

theorem twoPackages_denied :
    ∃ packages before e after,
      discover FlatStore.storage deniedPackages ⟨"/r/vendor"⟩ = .ok packages ∧
      packages.entries = before ++ e :: after ∧ e.1 = "b" ∧
      Blocked { root := ⟨"/r"⟩ } packages deniedPackages "b" ∧
      (∀ d ∈ packages.entries, Blocked { root := ⟨"/r"⟩ } packages deniedPackages d.1 ↔
        deniedPackages.isDenied (Settings.vendorDir { root := ⟨"/r"⟩ } / d.1 / "BUCK") = true ∨
          ∃ other, packages.contains other = true ∧ d.1 = other ++ "/" ++ "BUCK") ∧
      BuildsWritten { root := ⟨"/r"⟩ } packages before deniedPackages
        (run FlatStore.storage { root := ⟨"/r"⟩ } deniedPackages).state := by
  have hrun : (run FlatStore.storage { root := ⟨"/r"⟩ } deniedPackages).result =
      .error (.writing "BUCK" "b" (.permissionDenied ⟨"/r/vendor/b/BUCK"⟩)) := by decide +kernel
  obtain ⟨hstop, -, hcauses⟩ := @run_stops_at_first_blocked { root := ⟨"/r"⟩ } deniedPackages
    (by decide) isPlainName_default
  rcases hstop _ hrun with ⟨_, _, hfault, _⟩ |
    ⟨packages, before, e, after, hfound, hsplit, -, hblocked, hfault, -, hbuilds⟩
  · cases hfault
  · obtain ⟨-, hpath, -⟩ := RunFault.writing.inj hfault
    have he : e.1 = "b" := hpath.symm
    exact ⟨packages, before, e, after, hfound, hsplit, he, he ▸ hblocked,
      hcauses (textNames_of_entries (by decide +kernel)) packages hfound, hbuilds⟩

/-- A vendored tree of one package in a directory whose name is no text. -/
def oneByteNamed : FlatStore :=
  (FlatStore.empty ⟨"/r"⟩).addFile (byteDir 0xFF / "a.go") (Utf8.encode "package p\n")

/-- A run that stops at a package although its directory is there, no write is denied and no other
package is found: the build file would go to a directory that has the name which the name of the
package reads as. -/
theorem run_stops_at_byteNamed :
    (discover FlatStore.storage oneByteNamed ⟨"/r/vendor"⟩).toOption.map (·.entries.map (·.1)) =
        some ["\uFFFD"] ∧
      oneByteNamed.denied = [] ∧
      oneByteNamed.isDirectory (byteDir 0xFF) = true ∧
      (run FlatStore.storage { root := ⟨"/r"⟩ } oneByteNamed).result =
        .error (.writing "BUCK" "\uFFFD" (.parentNotFound ⟨"/r/vendor/\uFFFD/BUCK"⟩)) := by
  refine ⟨?_, rfl, ?_, ?_⟩ <;> decide +kernel

end

end VendorBuild
