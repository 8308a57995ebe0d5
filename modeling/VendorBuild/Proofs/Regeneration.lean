import VendorBuild.Proofs.Dependence
import VendorBuild.Proofs.Emission

/-!
# Regeneration

A run writes into the tree that the next run scans. The build files are no sources, and a build file
that takes the place of a directory takes no sources away: the package of that directory would be
blocked, and the run would not have succeeded. So where the paths of packages differ the next run
tells the same packages and writes the same texts to the same places, and what could be written once
is not blocked the second time. Where two paths read the same, each run writes for the directory
that it comes to last.

Results:
* `writeAll_congr`: writing builds depends on storage only through its writes.
* `BuildsWritten.sameSources`: a run that succeeds leaves the sources as they were.
* `run_again_changes_nothing`: a second run succeeds, reports the same and changes nothing.
* `run_again_changes_alike`: a second run that writes for another directory.
-/

namespace VendorBuild

section

variable {fs fs' : Storage FlatStore} {settings : Settings} {s s' : FlatStore} {vendor : Path}
  {packages : PackageSet}

/-! ## Runs in any order of listing -/

theorem SameSources.discover (h : SameSources vendor s s') (hfs : FlatStore.UpToOrder fs)
    (hfs' : FlatStore.UpToOrder fs') (hv : vendor.isAbsolute = true)
    (hdir' : s'.isDirectory vendor = true) (hdiffer : PathsDiffer s vendor)
    (hfound : discover fs s vendor = .ok packages) :
    VendorBuild.discover fs' s' vendor = .ok packages := by
  obtain ⟨hdir, hscan⟩ := (discover_eq_ok_iff hfs).1 hfound
  rw [h.scan hfs hfs' hv hdir hdir' hdiffer] at hscan
  exact (discover_eq_ok_iff hfs').2 ⟨hdir', hscan⟩

theorem writeAll_congr {σ : Type} {fs fs' : Storage σ} (h : fs.write = fs'.write)
    (settings : Settings) (builds : List Build) (s : σ) :
    writeAll fs settings builds s = writeAll fs' settings builds s := by
  induction builds generalizing s with
  | nil => rfl
  | cons b rest ih =>
    have hwrite : b.write fs settings s = b.write fs' settings s := by
      rw [Build.write, Build.write, h]
    simp only [writeAll, hwrite, ih]

/-- Where paths differ, a run that can tell the packages writes their build files, in whatever order
storage lists things, as it does over the flat store. -/
theorem emission_of_discover (hfs : FlatStore.UpToOrder fs)
    (hroot : settings.root.isAbsolute = true) (hname : IsPlainName settings.buildFileName)
    (hdiffer : PathsDiffer s settings.vendorDir)
    (hfound : discover fs s settings.vendorDir = .ok packages) :
    Discovered settings s packages ∧
      Emission settings packages s [] packages.entries (run fs settings s).result
        (run fs settings s).state := by
  have hv := Settings.isAbsolute_vendorDir hroot
  have hdir := ((discover_eq_ok_iff hfs).1 hfound).1
  have hsame : SameSources settings.vendorDir s s := fun _ _ _ _ => .rfl
  have hflat := hsame.discover hfs FlatStore.upToOrder_storage hv hdir hdiffer hfound
  obtain ⟨hresult, hstate⟩ := run_of_discover_ok hfound
  have hwrite : fs.write = FlatStore.storage.write := hfs.write
  rw [hresult, hstate, writeAll_congr hwrite]
  refine ⟨⟨hv, hname, hflat⟩, ?_⟩
  rw [← (run_of_discover_ok hflat).1, ← (run_of_discover_ok hflat).2]
  exact run_emission hroot hname hflat

/-! ## What is left of the sources -/

theorem Discovered.exists_mem_of_hasSources {steps : List Component}
    (h : Discovered settings s packages) (hsources : HasSources s settings.vendorDir steps) :
    ∃ e ∈ packages.entries, Path.steps e.1 = steps.map Component.reading := by
  obtain ⟨hdir, hscan⟩ := (discover_eq_ok_iff FlatStore.upToOrder_storage).1 h.found
  obtain ⟨found, hfound, rfl⟩ := Option.map_eq_some_iff.1 hscan
  have hsome := contains_of_hasSources FlatStore.upToOrder_storage h.vendor hdir
    (Except.toOption_eq_some_iff.1 hfound) hsources
  obtain ⟨p, hp⟩ := Option.isSome_iff_exists.1 hsome
  exact ⟨(spelledPath steps, p), NameMap.mem_entries_iff.2 hp,
    steps_spelledPath (hsources.isStep h.vendor)⟩

/-- The build file of a package found lies where the directory of one that is not blocked is not. -/
theorem Discovered.buildPlace_ne_of_not_blocked {d e : String × Package}
    (h : Discovered settings s packages) (hd : d ∈ packages.entries) (he : e ∈ packages.entries)
    (hfree : ¬ Blocked settings packages s e.1) :
    buildPlace settings d.1 ≠ settings.vendorDir.components ++ Path.steps e.1 := by
  intro hplace
  have hother : packages.contains d.1 = true :=
    Option.isSome_iff_exists.2 ⟨d.2, NameMap.mem_entries_iff.1 hd⟩
  exact hfree (.inr (.inl ⟨d.1, hother, (h.buildPlace_eq_directory_iff hd he).1 hplace⟩))

/-- The build files of packages that are not blocked lie where no directory with sources is. -/
theorem Discovered.buildPlace_ne_directory {steps : List Component} {d : String × Package}
    (h : Discovered settings s packages)
    (hfree : ∀ e ∈ packages.entries, ¬ Blocked settings packages s e.1) (hd : d ∈ packages.entries)
    (hsources : HasSources s settings.vendorDir steps) :
    buildPlace settings d.1 ≠ settings.vendorDir.components ++ steps := by
  intro hplace
  obtain ⟨e, he, hsteps⟩ := h.exists_mem_of_hasSources hsources
  -- an import path and the name of a build file are texts, so the steps are as they read
  have htexts : ∀ c ∈ steps, c.IsText := by
    obtain ⟨-, -, -, steps', -, hread⟩ := h.place hd
    rw [h.buildPlace_eq hd, List.append_assoc, List.append_cancel_left_eq, hread] at hplace
    intro c hc
    rw [← hplace] at hc
    rcases List.mem_append.1 hc with hc | hc
    · obtain ⟨c', -, rfl⟩ := List.mem_map.1 hc
      exact Component.isText_reading c'
    · rw [List.mem_singleton.1 hc]
      exact Component.isText_name _
  rw [Component.map_reading_eq_self_iff.2 htexts] at hsteps
  exact h.buildPlace_ne_of_not_blocked hd he (hfree e he) (hsteps ▸ hplace)

theorem Discovered.buildPlace_ne_source {place : List Component} {name : RawText}
    {d : String × Package} (h : Discovered settings s packages)
    (hbuild : isLibrarySource settings.buildFileName = false) (hd : d ∈ packages.entries)
    (hlib : isLibrarySource name.text = true) :
    buildPlace settings d.1 ≠ place ++ [.name name] := by
  rw [h.buildPlace_eq hd]
  intro hplace
  have hlast := List.append_inj_right' hplace rfl
  rw [List.singleton_inj, Component.name.injEq] at hlast
  rw [← hlast, RawText.text_ofString, hbuild] at hlib
  cases hlib

theorem BuildsWritten.sameSources (hs : BuildsWritten settings packages packages.entries s s')
    (h : Discovered settings s packages)
    (hbuild : isLibrarySource settings.buildFileName = false)
    (hfree : ∀ e ∈ packages.entries, ¬ Blocked settings packages s e.1) :
    SameSources settings.vendorDir s s' := by
  intro steps hne name bytes
  constructor
  · intro hsource
    have hsources : HasSources s settings.vendorDir steps := ⟨hne, name, bytes, hsource⟩
    refine ⟨?_, hsource.library, ?_⟩
    · rw [hs.kept _ fun d hd => h.buildPlace_ne_directory hfree hd hsources, hsource.directory]
    · rw [hs.kept _ fun d hd => h.buildPlace_ne_source hbuild hd hsource.library, hsource.file]
  · intro hsource
    -- where a build file went there is no directory any more
    have hplace : ∀ d ∈ packages.entries,
        buildPlace settings d.1 ≠ settings.vendorDir.components ++ steps := by
      intro d hd heq
      have hfile := hs.written d hd
      rw [heq, hsource.directory] at hfile
      cases hfile
    refine ⟨?_, hsource.library, ?_⟩
    · rw [← hs.kept _ hplace, hsource.directory]
    · rw [← hs.kept _ fun d hd => h.buildPlace_ne_source hbuild hd hsource.library, hsource.file]

theorem BuildsWritten.isDirectory_vendor
    (hs : BuildsWritten settings packages packages.entries s s')
    (h : Discovered settings s packages) (hdir : s.isDirectory settings.vendorDir = true) :
    s'.isDirectory settings.vendorDir = true := by
  have hne : ∀ d ∈ packages.entries,
      buildPlace settings d.1 ≠ settings.vendorDir.components := by
    intro d hd heq
    rw [h.buildPlace_eq hd, List.append_assoc, List.append_right_eq_self] at heq
    exact absurd heq (by simp)
  rw [FlatStore.isDirectory, FlatStore.locate_of_isAbsolute h.vendor, FlatStore.find?] at hdir ⊢
  rwa [hs.kept _ hne]

/-! ## A second run -/

/-- What has been written once is not changed by writing it again. -/
theorem BuildsWritten.findAt?_again {s'' : FlatStore}
    (hs : BuildsWritten settings packages packages.entries s s')
    (hs' : BuildsWritten settings packages packages.entries s' s'') (place : List Component) :
    s''.findAt? place = s'.findAt? place := by
  by_cases hplace : ∃ e ∈ packages.entries, buildPlace settings e.1 = place
  · obtain ⟨e, he, rfl⟩ := hplace
    rw [hs'.written e he, hs.written e he]
  · exact hs'.kept place fun e he heq => hplace ⟨e, he, heq⟩

theorem BuildsWritten.not_blocked {e : String × Package}
    (hs : BuildsWritten settings packages packages.entries s s')
    (h : Discovered settings s packages) (he : e ∈ packages.entries)
    (hfree : ¬ Blocked settings packages s e.1) : ¬ Blocked settings packages s' e.1 := by
  have hkept := hs.kept _ fun d hd => h.buildPlace_ne_of_not_blocked hd he hfree
  rwa [Blocked, FlatStore.isDenied_congr hs.denied rfl, hkept, ← Blocked]

/-- Over a store in which all packages have been written, a run writes the same once more. -/
theorem BuildsWritten.run_again (hs : BuildsWritten settings packages packages.entries s s')
    (hfs : FlatStore.UpToOrder fs) (hfs' : FlatStore.UpToOrder fs')
    (hroot : settings.root.isAbsolute = true) (hname : IsPlainName settings.buildFileName)
    (hbuild : isLibrarySource settings.buildFileName = false)
    (hdiffer : PathsDiffer s settings.vendorDir)
    (hfound : discover fs s settings.vendorDir = .ok packages)
    (hfree : ∀ e ∈ packages.entries, ¬ Blocked settings packages s e.1) :
    (run fs' settings s').result = .ok (packages.entries.map (reportedFile settings packages)) ∧
      BuildsWritten settings packages packages.entries s' (run fs' settings s').state := by
  obtain ⟨hdisc, -⟩ := emission_of_discover hfs hroot hname hdiffer hfound
  have hdir := ((discover_eq_ok_iff hfs).1 hfound).1
  have hsame := hs.sameSources hdisc hbuild hfree
  have hagain : discover fs' s' settings.vendorDir = .ok packages :=
    hsame.discover hfs hfs' hdisc.vendor (hs.isDirectory_vendor hdisc hdir) hdiffer hfound
  obtain ⟨-, hsecond⟩ :=
    emission_of_discover hfs' hroot hname (hsame.pathsDiffer hdiffer) hagain
  obtain ⟨-, hreport, hs'⟩ | ⟨before, e, after, hsplit, -, hblocked, -⟩ := hsecond
  · exact ⟨hreport, hs'⟩
  · have he : e ∈ packages.entries := by simp [hsplit]
    exact absurd hblocked (hs.not_blocked hdisc he (hfree e he))

/-- Regeneration is idempotent where paths differ. If a run succeeds, a second run over what it
leaves behind succeeds with the same report and changes nothing, whatever the orders in which the
two runs list things. -/
theorem run_again_changes_nothing {report : Report} (hfs : FlatStore.UpToOrder fs)
    (hfs' : FlatStore.UpToOrder fs') (hroot : settings.root.isAbsolute = true)
    (hname : IsPlainName settings.buildFileName)
    (hbuild : isLibrarySource settings.buildFileName = false)
    (hdiffer : PathsDiffer s settings.vendorDir)
    (hrun : (run fs settings s).result = .ok report) :
    (run fs' settings (run fs settings s).state).result = .ok report ∧
      (∀ place, (run fs' settings (run fs settings s).state).state.findAt? place =
        (run fs settings s).state.findAt? place) ∧
      (run fs' settings (run fs settings s).state).state.root = (run fs settings s).state.root ∧
      (run fs' settings (run fs settings s).state).state.denied =
        (run fs settings s).state.denied := by
  cases hfound : discover fs s settings.vendorDir with
  | error cause =>
    rw [(run_of_discover_error hfound).1] at hrun
    cases hrun
  | ok packages =>
    obtain ⟨-, hfirst⟩ := emission_of_discover hfs hroot hname hdiffer hfound
    generalize (run fs settings s).state = s' at hfirst ⊢
    obtain ⟨hfree, hreport, hs⟩ | ⟨_, _, _, _, _, _, hresult, _⟩ := hfirst
    · obtain ⟨hreport', hs'⟩ := hs.run_again hfs hfs' hroot hname hbuild hdiffer hfound hfree
      exact ⟨hreport'.trans (hreport.symm.trans hrun), hs.findAt?_again hs', hs'.root, hs'.denied⟩
    · rw [hresult] at hrun
      cases hrun

theorem twoPackages_again :
    let s' := (run FlatStore.storage { root := ⟨"/r"⟩ } twoPackages).state
    (run FlatStore.backwards { root := ⟨"/r"⟩ } s').result =
        .ok [⟨"vendor/a/BUCK", ["//vendor/b:b"]⟩, ⟨"vendor/b/BUCK", []⟩] ∧
      ∀ place, (run FlatStore.backwards { root := ⟨"/r"⟩ } s').state.findAt? place =
        s'.findAt? place := by
  have hdiffer : PathsDiffer twoPackages (Settings.vendorDir { root := ⟨"/r"⟩ }) :=
    (textNames_of_entries (by decide +kernel)).pathsDiffer (by decide +kernel)
  obtain ⟨hresult, hstate, -⟩ := run_again_changes_nothing FlatStore.upToOrder_storage
    FlatStore.upToOrder_backwards (by decide) isPlainName_default (by decide) hdiffer
    run_twoPackages
  exact ⟨hresult, hstate⟩

/-- A vendored tree of two packages, one in a directory whose name is no text, and the other in a
directory that has the name which that reads as. -/
def namedAlike : FlatStore :=
  ((FlatStore.empty ⟨"/r"⟩).addFile ⟨"vendor/\uFFFD/a.go"⟩ (Utf8.encode "package a\n")).addFile
    (byteDir 0xFF / "b.go") (Utf8.encode "package b\n")

/-- The build file of the package that is listed last is written over in a second run if the other
one is listed last there. -/
theorem run_again_changes_alike :
    let s' := (run FlatStore.storage { root := ⟨"/r"⟩ } namedAlike).state
    (run FlatStore.storage { root := ⟨"/r"⟩ } namedAlike).result =
        .ok [⟨"vendor/\uFFFD/BUCK", []⟩] ∧
      (run FlatStore.backwards { root := ⟨"/r"⟩ } s').result = .ok [⟨"vendor/\uFFFD/BUCK", []⟩] ∧
      s'.find? ⟨"/r/vendor/\uFFFD/BUCK"⟩ ≠
        (run FlatStore.backwards { root := ⟨"/r"⟩ } s').state.find? ⟨"/r/vendor/\uFFFD/BUCK"⟩ := by
  decide +kernel

end

end VendorBuild
