import VendorBuild.Proofs.Placement
import VendorBuild.Proofs.Survey

/-!
# What a scan depends on

Nothing in a tree but its sources has a part in what a scan finds. Test files, files in the vendor
directory itself and directories that are named like sources can be added without any effect. Where
the paths of directories with sources differ, it does not matter in which order storage lists what
is there. Where two of them read the same, the one that is listed last has the package.

Results:
* `SameSources.scan`: trees with the same sources are scanned alike.
* `SameSources.put_file`, `SameSources.put_directory`: what is no source.
* `scan_depends_on_sources`: what a scan gives, in terms of the sources.
* `scan_loses_package`: two directories with sources and one package.
-/

namespace VendorBuild

section

variable {fs fs' : Storage FlatStore} {s s' s'' : FlatStore} {vendor : Path}
  {steps : List Component}

/-! ## The same sources -/

/-- Whether two stores have the same sources in directories below the vendor directory. -/
def SameSources (vendor : Path) (s s' : FlatStore) : Prop :=
  ∀ steps, steps ≠ [] → ∀ name bytes, IsSource s (vendor.components ++ steps) name bytes ↔
    IsSource s' (vendor.components ++ steps) name bytes

theorem SameSources.symm (h : SameSources vendor s s') : SameSources vendor s' s :=
  fun steps hne name bytes => (h steps hne name bytes).symm

theorem SameSources.trans (h : SameSources vendor s s') (h' : SameSources vendor s' s'') :
    SameSources vendor s s'' :=
  fun steps hne name bytes => (h steps hne name bytes).trans (h' steps hne name bytes)

theorem SameSources.headerAt_iff (h : SameSources vendor s s') (hne : steps ≠ []) (a : Header) :
    HeaderAt s (vendor.components ++ steps) a ↔ HeaderAt s' (vendor.components ++ steps) a :=
  exists_congr fun name => exists_congr fun bytes => and_congr_left' (h steps hne name bytes)

theorem SameSources.hasSources_iff (h : SameSources vendor s s') :
    HasSources s vendor steps ↔ HasSources s' vendor steps :=
  and_congr_right fun hne =>
    exists_congr fun name => exists_congr fun bytes => h steps hne name bytes

theorem SameSources.coherent (h : SameSources vendor s s') (hne : steps ≠ [])
    (hs : Coherent s (vendor.components ++ steps)) : Coherent s' (vendor.components ++ steps) where
  readable name bytes hsource := hs.readable name bytes ((h steps hne name bytes).2 hsource)
  sameName := hs.sameName.mono fun a => (h.headerAt_iff hne a).2

theorem SameSources.pathsDiffer (h : SameSources vendor s s') (hs : PathsDiffer s vendor) :
    PathsDiffer s' vendor :=
  fun steps steps' hs₁ hs₂ => hs steps steps' (h.hasSources_iff.2 hs₁) (h.hasSources_iff.2 hs₂)

theorem SameSources.exists_scan_iff (h : SameSources vendor s s') (hfs : FlatStore.UpToOrder fs)
    (hfs' : FlatStore.UpToOrder fs') (hv : vendor.isAbsolute = true)
    (hdir : s.isDirectory vendor = true) (hdir' : s'.isDirectory vendor = true) :
    (∃ found, scan fs s vendor = .ok found) ↔ ∃ found, scan fs' s' vendor = .ok found := by
  rw [VendorBuild.exists_scan_iff hfs hv hdir, VendorBuild.exists_scan_iff hfs' hv hdir']
  exact forall_congr' fun steps => forall_congr' fun hne =>
    ⟨h.coherent hne, h.symm.coherent hne⟩

/-- Stores with the same sources are scanned to the same packages where paths differ. -/
theorem SameSources.scan (h : SameSources vendor s s') (hfs : FlatStore.UpToOrder fs)
    (hfs' : FlatStore.UpToOrder fs') (hv : vendor.isAbsolute = true)
    (hdir : s.isDirectory vendor = true) (hdir' : s'.isDirectory vendor = true)
    (hdiffer : PathsDiffer s vendor) :
    (scan fs s vendor).toOption.map (·.packages) =
      (scan fs' s' vendor).toOption.map (·.packages) := by
  have hiff := h.exists_scan_iff hfs hfs' hv hdir hdir'
  cases hs : VendorBuild.scan fs s vendor with
  | error fault =>
    cases hs' : VendorBuild.scan fs' s' vendor with
    | error fault' => rfl
    | ok found' =>
      obtain ⟨found, hfound⟩ := hiff.2 ⟨found', hs'⟩
      rw [hs] at hfound
      cases hfound
  | ok found =>
    obtain ⟨found', hs'⟩ := hiff.1 ⟨found, hs⟩
    rw [hs']
    refine congrArg some (NameMap.ext_find? fun key => Option.ext fun p => ?_)
    rw [find?_scan_iff hfs hv hdir hdiffer hs,
      find?_scan_iff hfs' hv hdir' (h.pathsDiffer hdiffer) hs']
    refine and_congr_right fun _ => exists_congr fun steps => ?_
    rw [h.hasSources_iff]
    refine and_congr_right fun hsources => ?_
    rw [funext fun a => propext (h.headerAt_iff hsources.1 a)]

/-- A file is no source if it lies in the vendor directory itself or has the name of none. -/
theorem SameSources.put_file {p : Path} {bytes : Bytes}
    (hstray : p.parent? = some vendor.components ∨
      isLibrarySource ((p.fileName?.map RawText.text).getD "") = false)
    (hold : s.findAt? p.components ≠ some .directory) :
    SameSources vendor s (s.put p (.file bytes)) := by
  intro steps hne name bytes'
  by_cases hplace : p.components = vendor.components ++ steps
  · refine ⟨fun hs => absurd (hplace ▸ hs.directory) hold, fun hs => ?_⟩
    have hfile := hs.directory
    rw [FlatStore.findAt?_put, if_pos hplace] at hfile
    cases hfile
  have hname : isLibrarySource name.text = true →
      p.components ≠ vendor.components ++ steps ++ [.name name] := by
    intro hlib hcomp
    obtain ⟨hparent, hlast⟩ := Path.components_eq_concat_iff.1 hcomp
    rcases hstray with hvendor | hother
    · rw [hvendor, Option.some.injEq, List.self_eq_append_right] at hparent
      exact hne hparent
    · rw [hlast, Option.map_some, Option.getD_some, hlib] at hother
      cases hother
  constructor
  · intro hs
    refine ⟨?_, hs.library, ?_⟩
    · rw [FlatStore.findAt?_put, if_neg hplace, hs.directory]
    · rw [FlatStore.findAt?_put, if_neg (hname hs.library), hs.file]
  · intro hs
    have hdirectory := hs.directory
    have hfile := hs.file
    rw [FlatStore.findAt?_put, if_neg hplace] at hdirectory
    rw [FlatStore.findAt?_put, if_neg (hname hs.library)] at hfile
    exact ⟨hdirectory, hs.library, hfile⟩

/-- A new directory is no source, whatever its name. -/
theorem SameSources.put_directory {p : Path} (hnew : s.findAt? p.components = none)
    (hempty : ∀ e ∈ s.entries, e.path.parent? ≠ some p.components) :
    SameSources vendor s (s.put p .directory) := by
  have hkept : ∀ {place node}, s.findAt? place = some node →
      (s.put p .directory).findAt? place = some node := by
    intro place node h
    rw [FlatStore.findAt?_put, if_neg, h]
    rintro rfl
    rw [hnew] at h
    cases h
  intro steps hne name bytes
  constructor
  · exact fun hs => ⟨hkept hs.directory, hs.library, hkept hs.file⟩
  · intro hs
    have hfile : s.findAt? (vendor.components ++ steps ++ [.name name]) = some (.file bytes) := by
      have hput := hs.file
      rw [FlatStore.findAt?_put] at hput
      split at hput
      · cases hput
      · exact hput
    -- the directory of the source holds an entry, so it is not the new one
    obtain ⟨e, he, hcomp, -⟩ := FlatStore.exists_entry_of_findAt? hfile
    have hparent := (Path.components_eq_concat_iff.1 hcomp).1
    have hdirectory := hs.directory
    have hne : p.components ≠ vendor.components ++ steps := fun hp => hempty e he (hp ▸ hparent)
    rw [FlatStore.findAt?_put, if_neg hne] at hdirectory
    exact ⟨hdirectory, hs.library, hfile⟩

/-! ## Scans -/

/-- In whatever order storage lists things, a tree can be scanned exactly if in each directory below
the vendor directory all sources have headers and declare one name. The packages found are those of
the directories with sources, and where the paths of these differ, as they do if their names are
texts, there is one for each of them. Nothing but the sources matters for whether the scan succeeds,
and where paths differ nothing but the sources matters for what it finds. -/
theorem scan_depends_on_sources (hfs : FlatStore.UpToOrder fs) (hv : vendor.isAbsolute = true)
    (hdir : s.isDirectory vendor = true) :
    ((∃ found, scan fs s vendor = .ok found) ↔
      ∀ steps, steps ≠ [] → Coherent s (vendor.components ++ steps)) ∧
    (∀ found, scan fs s vendor = .ok found → Describes s vendor found.packages) ∧
    (TextNames s vendor → PathsDiffer s vendor) ∧
    ∀ fs' s', FlatStore.UpToOrder fs' → s'.isDirectory vendor = true → SameSources vendor s s' →
      ((∃ found, scan fs s vendor = .ok found) ↔ ∃ found, scan fs' s' vendor = .ok found) ∧
      (PathsDiffer s vendor →
        (scan fs s vendor).toOption.map (·.packages) =
          (scan fs' s' vendor).toOption.map (·.packages)) :=
  ⟨exists_scan_iff hfs hv hdir, fun _ h => describes_of_scan hfs hv hdir h,
    TextNames.pathsDiffer hv,
    fun _ _ hfs' hdir' h =>
      ⟨h.exists_scan_iff hfs hfs' hv hdir hdir', h.scan hfs hfs' hv hdir hdir'⟩⟩

end

namespace FlatStore

/-- A vendored tree of two packages, one below the other. -/
def nested : FlatStore :=
  ((empty ⟨"/"⟩).addFile ⟨"v/a/a.go"⟩ (Utf8.encode "package a\nimport \"a/b\"\n")).addFile
    ⟨"v/a/b/b.go"⟩ (Utf8.encode "package b\nimport \"C\"\n")

/-- The same tree with a file in the vendor directory, a test file, neither of them text, and a
directory named like a source. -/
def withStrays : FlatStore :=
  ((nested.put ⟨"/v/m.go"⟩ (.file [0xFF])).put ⟨"/v/a/a_test.go"⟩
    (.file [0xFF])).put ⟨"/v/a/c.go"⟩ .directory

theorem sameSources_withStrays : SameSources ⟨"/v"⟩ nested withStrays :=
  ((SameSources.put_file (.inl (by decide)) (by decide)).trans
    (.put_file (.inr (by decide +kernel)) (by decide +kernel))).trans
    (.put_directory (by decide) (by decide))

end FlatStore

theorem scan_withStrays :
    (∃ found, scan FlatStore.backwards FlatStore.withStrays ⟨"/v"⟩ = .ok found ∧
      Describes FlatStore.withStrays ⟨"/v"⟩ found.packages ∧
      found.packages.size = {steps | HasSources FlatStore.withStrays ⟨"/v"⟩ steps}.ncard) ∧
    (scan FlatStore.backwards FlatStore.withStrays ⟨"/v"⟩).toOption.map (·.packages) =
      (scan FlatStore.storage FlatStore.nested ⟨"/v"⟩).toOption.map (·.packages) := by
  have hdir : FlatStore.withStrays.isDirectory ⟨"/v"⟩ = true := by decide
  obtain ⟨-, hdescribes, htexts, hsame⟩ :=
    scan_depends_on_sources FlatStore.upToOrder_backwards (by decide) hdir
  have hdiffer := htexts (textNames_of_entries (by decide +kernel))
  obtain ⟨-, hscans⟩ := hsame _ _ FlatStore.upToOrder_storage (by decide)
    FlatStore.sameSources_withStrays.symm
  refine ⟨?_, hscans hdiffer⟩
  have hok : (scan FlatStore.backwards FlatStore.withStrays ⟨"/v"⟩).toOption.isSome = true := by
    decide +kernel
  cases hscan : scan FlatStore.backwards FlatStore.withStrays ⟨"/v"⟩ with
  | error fault =>
    rw [hscan] at hok
    cases hok
  | ok found =>
    have hfound := hdescribes found hscan
    exact ⟨found, rfl, hfound, hfound.size_iff.2 hdiffer⟩

/-- A vendored tree of two packages in directories whose names are no texts. -/
def byteNamed : FlatStore :=
  ((FlatStore.empty ⟨"/r"⟩).addFile (byteDir 0xFF / "a.go")
    (Utf8.encode "package a\n")).addFile (byteDir 0xFE / "a.go") (Utf8.encode "package b\n")

/-- Both directories have sources, and both have the same import path, so one of the two packages is
lost. Which one depends on the order of listing. -/
theorem scan_loses_package :
    byteNamed.isDirectory ⟨"/r/vendor"⟩ = true ∧
    HasSources byteNamed ⟨"/r/vendor"⟩ [.name ⟨[0xFF]⟩] ∧
    HasSources byteNamed ⟨"/r/vendor"⟩ [.name ⟨[0xFE]⟩] ∧
    spelledPath [.name ⟨[0xFF]⟩] = spelledPath [.name ⟨[0xFE]⟩] ∧
    (scan FlatStore.storage byteNamed ⟨"/r/vendor"⟩).toOption.map
      (·.packages.entries.map fun e => (e.1, e.2.name)) = some [("\uFFFD", "b")] ∧
    (scan FlatStore.backwards byteNamed ⟨"/r/vendor"⟩).toOption.map
      (·.packages.entries.map fun e => (e.1, e.2.name)) = some [("\uFFFD", "a")] := by
  refine ⟨by decide, ⟨by simp, "a.go", Utf8.encode "package a\n", ?_⟩,
    ⟨by simp, "a.go", Utf8.encode "package b\n", ?_⟩, by decide +kernel, by decide +kernel,
    by decide +kernel⟩
  all_goals constructor <;> decide +kernel

end VendorBuild
