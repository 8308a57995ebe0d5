import VendorBuild.Proofs.Events
import VendorBuild.Proofs.Influence

/-!
# What a run leaves alone

A run writes at the places of the build files of the packages found and nowhere else, whether it
succeeds or fails. What is at such a place is replaced, whatever it is: the settings are only asked
for a name that is a single segment. With a name that no source has, and where no directory lies at
such a place, all directories stay directories and all sources keep their bytes, and where paths
differ the same packages are found afterwards. A single dot for a name makes the build file go where
the import path of the package leads, and that is only sure not to be a source where names are
texts.

Results:
* `Written.findAt?_eq_or`: what the writing of builds leaves behind at a place.
* `run_keeps_tree`: what a run leaves as it was.
* `run_replaces_source`: what it does not.
-/

namespace VendorBuild

section

variable {fs fs' : Storage FlatStore} {settings : Settings} {s s' : FlatStore}
  {packages : PackageSet} {builds : List Build} {place : List Component}

/-! ## Places of build files -/

/-- Whether a place is where the build file of one of some packages goes. -/
def IsBuildPlace (settings : Settings) (packages : PackageSet) (place : List Component) : Prop :=
  ∃ e ∈ packages.entries,
    (buildPath settings.vendorDir e.1 settings.buildFileName).components = place

theorem Settings.buildFileName_of_check (h : settings.check = .ok ()) :
    settings.buildFileName ≠ "" ∧ RawText.slash ∉ (settings.buildFileName : RawText).bytes := by
  obtain ⟨-, hname, -, -⟩ := Settings.check_eq_ok_iff.1 h
  obtain ⟨hne, hslash, -⟩ := isSingleSegment_iff.1 hname
  exact ⟨hne, mt RawText.slash_mem_ofString_iff.1 hslash⟩

/-! ## Writing -/

/-- The writing of builds leaves at a place what was there, or the build file of one of them. -/
theorem Written.findAt?_eq_or (hfs : fs.write = FlatStore.write)
    (h : Written fs settings s builds s') (place : List Component) :
    s'.root = s.root ∧ (s'.findAt? place = s.findAt? place ∨
      ∃ b ∈ builds, (s.locate (b.file settings).path).components = place ∧
        s'.findAt? place = some (.file (Utf8.encode b.rule.render))) := by
  induction h with
  | nil s => exact ⟨rfl, .inl rfl⟩
  | @cons s next s' b rest first later ih =>
    rw [hfs] at first
    have hnext := FlatStore.eq_put_of_write first
    have hroot : next.root = s.root := by
      rw [hnext]
      rfl
    obtain ⟨hroot', hkept | ⟨d, hd, hplace, hfile⟩⟩ := ih
    · refine ⟨hroot'.trans hroot, ?_⟩
      rw [hkept, hnext, FlatStore.findAt?_put]
      split
      · rename_i hplace
        exact .inr ⟨b, List.mem_cons_self, hplace, by rw [b.text_file]⟩
      · exact .inl rfl
    · rw [FlatStore.locate_congr hroot] at hplace
      exact ⟨hroot'.trans hroot, .inr ⟨d, List.mem_cons_of_mem _ hd, hplace, hfile⟩⟩

theorem isBuildPlace_of_mem_plan {b : Build} (hroot : settings.root.isAbsolute = true)
    (hname : RawText.slash ∉ (settings.buildFileName : RawText).bytes)
    (hfound : discover fs s settings.vendorDir = .ok packages)
    (hb : b ∈ plan packages settings.cell) :
    IsBuildPlace settings packages (s.locate (b.file settings).path).components := by
  rw [plan_eq_map] at hb
  obtain ⟨e, he, rfl⟩ := List.mem_map.1 hb
  obtain ⟨dirs, -, hdirs⟩ := found_of_discover hfound
  have hkey := (hdirs e.1 e.2 (NameMap.mem_entries_iff.1 he)).1
  have hpath : ((plannedBuild settings packages e.2).file settings).path =
      buildPath settings.vendorDir e.1 settings.buildFileName := by
    rw [hkey]
    rfl
  refine ⟨e, he, ?_⟩
  rw [hpath, FlatStore.locate_of_isAbsolute (components_buildPath_of_notMem
    (Settings.isAbsolute_vendorDir hroot) hname e.1).1]

/-- A run changes nothing if it cannot tell the packages. Otherwise it leaves at every place what
was there, or a build file if the place is that of one. -/
theorem run_changes (hfs : fs.write = FlatStore.write) (hroot : settings.root.isAbsolute = true)
    (hname : RawText.slash ∉ (settings.buildFileName : RawText).bytes) :
    (∃ cause, discover fs s settings.vendorDir = .error cause ∧ (run fs settings s).state = s) ∨
    ∃ packages, discover fs s settings.vendorDir = .ok packages ∧
      (run fs settings s).state.root = s.root ∧
      ∀ place, (run fs settings s).state.findAt? place = s.findAt? place ∨
        IsBuildPlace settings packages place ∧
          ∃ bytes, (run fs settings s).state.findAt? place = some (.file bytes) := by
  cases hfound : discover fs s settings.vendorDir with
  | error cause => exact .inl ⟨cause, rfl, (run_of_discover_error hfound).2⟩
  | ok packages =>
    right
    obtain ⟨builds, hsub, hwritten⟩ : ∃ builds, (∀ b ∈ builds, b ∈ plan packages settings.cell) ∧
        Written fs settings s builds (run fs settings s).state := by
      rw [(run_of_discover_ok hfound).2]
      obtain ⟨tells, -⟩ | ⟨before, b, after, fault, hsplit, tells, -, -⟩ :=
        writeAll_tells fs settings (plan packages settings.cell) s
      · exact ⟨_, fun _ hb => hb, tells.written⟩
      · exact ⟨before, fun d hd => hsplit ▸ List.mem_append_left _ hd, tells.written⟩
    refine ⟨packages, rfl, (hwritten.findAt?_eq_or hfs []).1, fun place => ?_⟩
    obtain hkept | ⟨b, hb, rfl, hfile⟩ := (hwritten.findAt?_eq_or hfs place).2
    · exact .inl hkept
    · exact .inr ⟨isBuildPlace_of_mem_plan hroot hname hfound (hsub b hb), _, hfile⟩

/-! ## The library -/

/-- No build file goes where a source may be if its name is that of none, unless a directory is
there. -/
theorem not_isBuildPlace_of_isLibrarySource {name : RawText} (hfs : FlatStore.UpToOrder fs)
    (hcheck : settings.check = .ok ()) (hroot : settings.root.isAbsolute = true)
    (hdot : settings.buildFileName = "." → TextNames s settings.vendorDir)
    (hfound : discover fs s settings.vendorDir = .ok packages)
    (hbuild : isLibrarySource settings.buildFileName = false)
    (hlib : isLibrarySource name.text = true)
    (hother : s.findAt? (place ++ [.name name]) ≠ some .directory) :
    ¬ IsBuildPlace settings packages (place ++ [.name name]) := by
  rintro ⟨e, he, hplace⟩
  obtain ⟨hne, hslash⟩ := Settings.buildFileName_of_check hcheck
  have hvendor := Settings.isAbsolute_vendorDir hroot
  have hcomp := (components_buildPath_of_notMem hvendor hslash e.1).2
  have hsteps : Path.steps settings.buildFileName =
      (Component.ofSegment? settings.buildFileName).toList := by
    rw [Path.steps_of_notMem hslash]
    cases h : Component.ofSegment? settings.buildFileName <;> simp [h]
  rw [hplace, hsteps] at hcomp
  cases hstep : Component.ofSegment? settings.buildFileName with
  | none =>
    -- the build file goes where the directory of the package is
    have hname : settings.buildFileName = "." := by
      unfold Component.ofSegment? at hstep
      split_ifs at hstep with hempty
      simpa [hne] using hempty
    rw [hstep, Option.toList_none, List.append_nil] at hcomp
    rw [hcomp] at hother
    exact hother (directory_of_discover hfs hvendor (hdot hname) hfound he)
  | some c =>
    rw [hstep, Option.toList_some] at hcomp
    have hlast := List.append_inj_right' hcomp rfl
    rw [List.singleton_inj] at hlast
    have hraw := Component.raw_of_ofSegment? hstep
    rw [← hlast, Component.raw] at hraw
    rw [hraw, RawText.text_ofString, hbuild] at hlib
    cases hlib

/-- A run leaves the library as it was if the name of its build files is that of no source and no
directory lies at the place of one. -/
theorem sameLibrary_run (hfs : FlatStore.UpToOrder fs) (hcheck : settings.check = .ok ())
    (hroot : settings.root.isAbsolute = true) (hstore : s.root.isAbsolute = true)
    (hdot : settings.buildFileName = "." → TextNames s settings.vendorDir)
    (hbuild : isLibrarySource settings.buildFileName = false)
    (hfree : ∀ packages place, discover fs s settings.vendorDir = .ok packages →
      IsBuildPlace settings packages place → s.findAt? place ≠ some .directory) :
    SameLibrary settings.vendorDir s (run fs settings s).state := by
  obtain ⟨directories, sources, root⟩ : (∀ place, s.findAt? place = some .directory ↔
      (run fs settings s).state.findAt? place = some .directory) ∧
      (∀ place (name : RawText), isLibrarySource name.text = true →
        (run fs settings s).state.findAt? (place ++ [.name name]) =
          s.findAt? (place ++ [.name name])) ∧ s.root = (run fs settings s).state.root := by
    obtain ⟨cause, -, hstate⟩ | ⟨packages, hfound, hkept, hat⟩ :=
      run_changes hfs.write hroot (Settings.buildFileName_of_check hcheck).2
    · rw [hstate]
      exact ⟨fun _ => .rfl, fun _ _ _ => rfl, rfl⟩
    · refine ⟨fun place => ?_, fun place name hlib => ?_, hkept.symm⟩
      · obtain hsame | ⟨hplace, bytes, hfile⟩ := hat place
        · rw [hsame]
        · rw [hfile]
          exact iff_of_false (hfree packages place hfound hplace) (by simp)
      · obtain hsame | ⟨hplace, -⟩ := hat (place ++ [.name name])
        · exact hsame
        · exact absurd hplace (not_isBuildPlace_of_isLibrarySource hfs hcheck hroot hdot hfound
            hbuild hlib (hfree packages _ hfound hplace))
  refine ⟨root, hstore, fun steps => directories _, ?_⟩
  intro steps _ name bytes
  constructor
  · intro h
    exact ⟨(directories _).1 h.directory, h.library, by rw [sources _ _ h.library, h.file]⟩
  · intro h
    exact ⟨(directories _).2 h.directory, h.library, by rw [← sources _ _ h.library, h.file]⟩

/-! ## Runs -/

/-- Whether whatever is in a store is in a directory. -/
def FlatStore.IsTree (s : FlatStore) : Prop :=
  ∀ e ∈ s.entries, ∀ steps, e.path.parent? = some steps → s.findAt? steps = some .directory

/-- A run with settings that pass leaves as it was whatever is not at the place of the build file of
a package found. All directories stay directories if none lies at such a place, and all sources keep
their bytes if the name of the build files is that of none. If both hold and paths differ, the
packages found afterwards are those found before, or the fault is the same. Where the name of the
build files is a single dot, the last two are sure only if the names on the way to sources are
texts. -/
theorem run_keeps_tree (hcheck : settings.check = .ok ()) (hroot : settings.root.isAbsolute = true)
    (hstore : s.root.isAbsolute = true) (hfs : FlatStore.UpToOrder fs)
    (hfs' : FlatStore.UpToOrder fs') :
    (∀ place, (∀ packages, discover fs s settings.vendorDir = .ok packages →
        ¬ IsBuildPlace settings packages place) →
      (run fs settings s).state.findAt? place = s.findAt? place) ∧
    ((∀ packages place, discover fs s settings.vendorDir = .ok packages →
        IsBuildPlace settings packages place → s.findAt? place ≠ some .directory) →
      ∀ place, s.findAt? place = some .directory →
        (run fs settings s).state.findAt? place = some .directory) ∧
    (isLibrarySource settings.buildFileName = false →
      (settings.buildFileName = "." → TextNames s settings.vendorDir) →
      ∀ place (name : RawText) bytes, isLibrarySource name.text = true →
        s.findAt? (place ++ [.name name]) = some (.file bytes) →
        (run fs settings s).state.findAt? (place ++ [.name name]) = some (.file bytes)) ∧
    (isLibrarySource settings.buildFileName = false →
      (settings.buildFileName = "." → TextNames s settings.vendorDir) →
      PathsDiffer s settings.vendorDir →
      (∀ packages place, discover fs s settings.vendorDir = .ok packages →
        IsBuildPlace settings packages place → s.findAt? place ≠ some .directory) →
      discover fs' (run fs settings s).state settings.vendorDir =
        discover fs' s settings.vendorDir) := by
  have hchanges := run_changes (s := s) hfs.write hroot (Settings.buildFileName_of_check hcheck).2
  have hkept : ∀ place, (∀ packages, discover fs s settings.vendorDir = .ok packages →
      ¬ IsBuildPlace settings packages place) →
      (run fs settings s).state.findAt? place = s.findAt? place := by
    intro place hother
    obtain ⟨cause, -, hstate⟩ | ⟨packages, hfound, -, hat⟩ := hchanges
    · rw [hstate]
    · exact (hat place).resolve_right fun h => hother packages hfound h.1
  refine ⟨hkept, fun hfree place hdir => ?_, fun hbuild hdot place name bytes hlib hfile => ?_,
    fun hbuild hdot hdiffer hfree => ?_⟩
  · rw [hkept place fun packages hfound hplace => hfree packages place hfound hplace hdir, hdir]
  · rw [hkept _ fun packages hfound => not_isBuildPlace_of_isLibrarySource hfs hcheck hroot hdot
      hfound hbuild hlib (by simp [hfile]), hfile]
  · have library := sameLibrary_run hfs hcheck hroot hstore hdot hbuild hfree
    obtain ⟨cause, -, hstate⟩ | ⟨packages, hfound, -⟩ := hchanges
    · rw [hstate]
    · rw [library.discover_eq_ok hfs hfs' hdiffer hfound,
        (SameLibrary.refl hstore).discover_eq_ok hfs hfs' hdiffer hfound]

/-- A vendored tree of one package, with a directory for its documents beside the source. -/
def documented : FlatStore :=
  ((FlatStore.empty ⟨"/r"⟩).addFile ⟨"vendor/a/a.go"⟩ (Utf8.encode "package a\n")).addDirectory
    ⟨"vendor/a/doc"⟩

theorem isTree_documented : documented.IsTree := by
  have hall : (documented.entries.all fun e =>
      e.path.parent?.all fun steps => decide (documented.findAt? steps = some .directory)) =
      true := by decide +kernel
  intro e he steps hparent
  have := List.all_eq_true.1 hall e he
  rw [hparent] at this
  simpa using this

theorem run_documented :
    (run FlatStore.storage { root := ⟨"/r"⟩ } documented).result = .ok [⟨"vendor/a/BUCK", []⟩] ∧
    (run FlatStore.storage { root := ⟨"/r"⟩ } documented).state.find? ⟨"/r/vendor/a/doc"⟩ =
      some .directory ∧
    (run FlatStore.storage { root := ⟨"/r"⟩ } documented).state.find? ⟨"/r/vendor/a/a.go"⟩ =
      some (.file (Utf8.encode "package a\n")) ∧
    discover FlatStore.backwards (run FlatStore.storage { root := ⟨"/r"⟩ } documented).state
        ⟨"/r/vendor"⟩ =
      discover FlatStore.backwards documented ⟨"/r/vendor"⟩ := by
  have hkeys : (discover FlatStore.storage documented ⟨"/r/vendor"⟩).toOption.map
      (·.entries.map (·.1)) = some ["a"] := by decide +kernel
  have hfree : ∀ packages place, discover FlatStore.storage documented ⟨"/r/vendor"⟩ =
      .ok packages → IsBuildPlace { root := ⟨"/r"⟩ } packages place →
      documented.findAt? place ≠ some .directory := by
    rintro packages _ hfound ⟨e, he, rfl⟩
    rw [hfound] at hkeys
    have hkey : e.1 ∈ ["a"] := by
      rw [← Option.some.inj hkeys]
      exact List.mem_map_of_mem he
    rw [List.mem_singleton.1 hkey]
    decide +kernel
  have htexts : TextNames documented (Settings.vendorDir { root := ⟨"/r"⟩ }) :=
    textNames_of_entries (by decide +kernel)
  obtain ⟨-, directories, sources, same⟩ :=
    @run_keeps_tree FlatStore.storage FlatStore.backwards { root := ⟨"/r"⟩ } documented
      (by decide +kernel) (by decide +kernel) (by decide +kernel) FlatStore.upToOrder_storage
      FlatStore.upToOrder_backwards
  refine ⟨by decide +kernel, directories hfree _ (by decide +kernel), ?_,
    same (by decide) (fun _ => htexts) (htexts.pathsDiffer (by decide +kernel)) hfree⟩
  exact sources (by decide) (fun _ => htexts) [.top, .name "r", .name "vendor", .name "a"] "a.go" _
    (by decide +kernel) (by decide +kernel)

/-- A source is replaced by a build file if the build files have its name. -/
theorem run_replaces_source :
    documented.IsTree ∧
    ({ root := ⟨"/r"⟩, buildFileName := "a.go" } : Settings).check = .ok () ∧
    documented.find? ⟨"/r/vendor/a/a.go"⟩ = some (.file (Utf8.encode "package a\n")) ∧
    (run FlatStore.storage { root := ⟨"/r"⟩, buildFileName := "a.go" } documented).state.find?
        ⟨"/r/vendor/a/a.go"⟩ ≠ some (.file (Utf8.encode "package a\n")) := by
  refine ⟨isTree_documented, by decide, ?_, ?_⟩ <;> decide +kernel

end

end VendorBuild
