import VendorBuild.Proofs.Regeneration

/-!
# What has an influence on a run

A run looks at the directories at and below the vendor directory and at the library sources in those
below it. Stores that agree on these may differ in anything else, and storage may list what is in
them in any order: where the paths of packages differ, the same packages are found, and what is
written for them takes the place of whatever was there before. Where two paths read the same, the
order of listing is an influence, too.

Results:
* `scanFrom_of_scansAs`: directories that add the same packages are scanned to the same set.
* `SameLibrary.discover`: in stores with the same library the same packages are found.
* `findAt?_writeAll`: what is at a place after builds have been written.
* `run_depends_on_library`: two runs over stores with the same library.
* `run_depends_on_order`: two runs over one store in two orders.
-/

namespace VendorBuild

/-! ## Directories that add the same packages -/

section

variable {σ σ' : Type} {fs : Storage σ} {fs' : Storage σ'} {s : σ} {s' : σ'} {vendor : Path}
  {dirs dirs' : List Path} {found : PackageSet}

/-- Whether a directory in one state adds the same package, if any, as one in another state. -/
structure ScansAs (fs : Storage σ) (s : σ) (fs' : Storage σ') (s' : σ') (vendor dir dir' : Path) :
    Prop where
  path : importPathOf? vendor dir = importPathOf? vendor dir'
  contents : importPathOf? vendor dir ≠ some "" →
    (directoryContents? fs s dir).toOption = (directoryContents? fs' s' dir').toOption

namespace ScansAs

variable {dir dir' : Path}

theorem symm (h : ScansAs fs s fs' s' vendor dir dir') : ScansAs fs' s' fs s vendor dir' dir where
  path := h.path.symm
  contents hne := (h.contents (h.path ▸ hne)).symm

theorem contents_iff (h : ScansAs fs s fs' s' vendor dir dir') {key : String}
    (hkey : importPathOf? vendor dir = some key) (hne : key ≠ "") (contents : Option Contents) :
    directoryContents? fs s dir = .ok contents ↔ directoryContents? fs' s' dir' = .ok contents := by
  rw [← Except.toOption_eq_some_iff, ← Except.toOption_eq_some_iff,
    h.contents (by rw [hkey]; simpa using hne)]

theorem scannable (h : ScansAs fs s fs' s' vendor dir dir') (hs : Scannable fs s vendor dir) :
    Scannable fs' s' vendor dir' := by
  obtain ⟨key, hkey, hcontents⟩ := hs
  refine ⟨key, h.path ▸ hkey, fun hne => ?_⟩
  obtain ⟨contents, hc⟩ := hcontents hne
  exact ⟨contents, (h.contents_iff hkey hne contents).1 hc⟩

theorem isPackageOf (h : ScansAs fs s fs' s' vendor dir dir') {p : Package}
    (hp : IsPackageOf fs s vendor dir p) : IsPackageOf fs' s' vendor dir' p where
  path := h.path ▸ hp.path
  ne_empty := hp.ne_empty
  contents := (h.contents_iff hp.path hp.ne_empty _).1 hp.contents

end ScansAs

/-- Whether directories with the same path from the vendor directory have the same package, if each
of them has one. -/
def ScansApart (fs : Storage σ) (s : σ) (vendor : Path) (dirs : List Path) : Prop :=
  ∀ dir ∈ dirs, ∀ dir' ∈ dirs, ∀ p q, IsPackageOf fs s vendor dir p →
    IsPackageOf fs s vendor dir' q → p.importPath = q.importPath → p = q

theorem find?_scanFrom_iff (hapart : ScansApart fs s vendor dirs)
    (h : scanFrom fs s vendor .empty dirs = .ok found) {key : String} {p : Package} :
    found.find? key = some p ↔
      key = p.importPath ∧ ∃ dir ∈ dirs, IsPackageOf fs s vendor dir p := by
  have hfound : Found fs s vendor dirs found := scanFrom_found found_empty h
  refine ⟨hfound key p, ?_⟩
  rintro ⟨rfl, dir, hdir, hp⟩
  have hsome := ((scanFrom_accounted h).2 dir hdir).2 _ _ hp.path hp.ne_empty hp.contents
  obtain ⟨q, hq⟩ := Option.isSome_iff_exists.1 hsome
  obtain ⟨hkey, dir', hdir', hq'⟩ := hfound _ q hq
  rw [hq, hapart dir hdir dir' hdir' p q hp hq' hkey]

theorem exists_scanFrom_iff :
    (∃ found, scanFrom fs s vendor .empty dirs = .ok found) ↔
      ∀ dir ∈ dirs, Scannable fs s vendor dir :=
  ⟨fun ⟨_, h⟩ dir hdir => ((scanFrom_accounted h).2 dir hdir).1, exists_scanFrom_eq_ok⟩

/-- Directories that add the same packages are scanned to the same set, in whatever order. -/
theorem scanFrom_of_scansAs (hapart : ScansApart fs s vendor dirs)
    (hapart' : ScansApart fs' s' vendor dirs')
    (hthere : ∀ dir ∈ dirs, ∃ dir' ∈ dirs', ScansAs fs s fs' s' vendor dir dir')
    (hback : ∀ dir' ∈ dirs', ∃ dir ∈ dirs, ScansAs fs' s' fs s vendor dir' dir)
    (h : scanFrom fs s vendor .empty dirs = .ok found) :
    scanFrom fs' s' vendor .empty dirs' = .ok found := by
  have hscan := exists_scanFrom_iff.1 ⟨found, h⟩
  obtain ⟨found', h'⟩ : ∃ found', scanFrom fs' s' vendor .empty dirs' = .ok found' := by
    refine exists_scanFrom_iff.2 fun dir' hdir' => ?_
    obtain ⟨dir, hdir, hsame⟩ := hback dir' hdir'
    exact hsame.symm.scannable (hscan dir hdir)
  rw [h']
  refine congrArg _ (NameMap.ext_find? fun key => Option.ext fun p => ?_)
  rw [find?_scanFrom_iff hapart' h', find?_scanFrom_iff hapart h]
  refine and_congr_right fun _ => ⟨?_, ?_⟩
  · rintro ⟨dir', hdir', hp⟩
    obtain ⟨dir, hdir, hsame⟩ := hback dir' hdir'
    exact ⟨dir, hdir, hsame.isPackageOf hp⟩
  · rintro ⟨dir, hdir, hp⟩
    obtain ⟨dir', hdir', hsame⟩ := hthere dir hdir
    exact ⟨dir', hdir', hsame.isPackageOf hp⟩

end

/-! ## Paths from the vendor directory -/

section

variable {fs fs' : Storage FlatStore} {s s' : FlatStore} {vendor dir dir' : Path}
  {steps steps' : List Component}

/-- Whether a path is spelled from the top, or not at all, so that what is below it has paths from
it. -/
def LeadsDown (vendor : Path) : Prop := vendor.isAbsolute = true ∨ vendor.components = []

/-! ## The same library -/

theorem FlatStore.locate_congr (h : s.root = s'.root) : s.locate = s'.locate := by
  funext p
  rw [locate, locate, h]

/-- Whether two stores with the same root have the same directories at and below the vendor
directory, and the same library sources in those below it. They may differ in anything else. -/
structure SameLibrary (vendor : Path) (s s' : FlatStore) : Prop where
  root : s.root = s'.root
  rooted : s.root.isAbsolute = true
  directories : ∀ steps, s.findAt? (vendor.components ++ steps) = some .directory ↔
    s'.findAt? (vendor.components ++ steps) = some .directory
  sources : SameSources vendor s s'

namespace SameLibrary

theorem refl (h : s.root.isAbsolute = true) : SameLibrary vendor s s :=
  ⟨rfl, h, fun _ => .rfl, fun _ _ _ _ => .rfl⟩

theorem symm (h : SameLibrary vendor s s') : SameLibrary vendor s' s :=
  ⟨h.root.symm, h.root ▸ h.rooted, fun steps => (h.directories steps).symm, h.sources.symm⟩

theorem trans {s'' : FlatStore} (h : SameLibrary vendor s s') (h' : SameLibrary vendor s' s'') :
    SameLibrary vendor s s'' :=
  ⟨h.root.trans h'.root, h.rooted, fun steps => (h.directories steps).trans (h'.directories steps),
    h.sources.trans h'.sources⟩

theorem locate_eq (h : SameLibrary vendor s s') (p : Path) : s.locate p = s'.locate p := by
  rw [FlatStore.locate_congr h.root]

/-- A file that takes no directory's place belongs to no library if it lies in the vendor directory
itself or has the name of no source. -/
theorem put_file {p : Path} {bytes : Bytes} (hroot : s.root.isAbsolute = true)
    (hstray : p.parent? = some vendor.components ∨
      isLibrarySource ((p.fileName?.map RawText.text).getD "") = false)
    (hold : s.findAt? p.components ≠ some .directory) :
    SameLibrary vendor s (s.put p (.file bytes)) := by
  refine ⟨rfl, hroot, fun steps => ?_, .put_file hstray hold⟩
  rw [FlatStore.findAt?_put]
  split
  · rename_i hplace
    rw [hplace] at hold
    exact iff_of_false hold (by simp)
  · rfl

/-- What is neither at the vendor directory nor below it belongs to no library. -/
theorem put_outside {p : Path} {node : FlatNode} (hroot : s.root.isAbsolute = true)
    (hout : ¬ vendor.components <+: p.components) : SameLibrary vendor s (s.put p node) := by
  have hkept : ∀ steps, (s.put p node).findAt? (vendor.components ++ steps) =
      s.findAt? (vendor.components ++ steps) := by
    intro steps
    rw [FlatStore.findAt?_put, if_neg]
    exact fun hplace => hout (hplace ▸ List.prefix_append ..)
  refine ⟨rfl, hroot, fun steps => by rw [hkept], fun steps _ name bytes => ?_⟩
  constructor
  · intro hs
    refine ⟨by rw [hkept, hs.directory], hs.library, ?_⟩
    rw [List.append_assoc, hkept, ← List.append_assoc, hs.file]
  · intro hs
    refine ⟨by rw [← hkept, hs.directory], hs.library, ?_⟩
    rw [List.append_assoc, ← hkept, ← List.append_assoc, hs.file]

end SameLibrary

theorem SameSources.directoryContents? {contents : Option Contents} (h : SameSources vendor s s')
    (hfs : FlatStore.UpToOrder fs) (hfs' : FlatStore.UpToOrder fs') (hdir : dir.isAbsolute = true)
    (hdir' : dir'.isAbsolute = true) (hcomp : dir.components = vendor.components ++ steps)
    (hcomp' : dir'.components = vendor.components ++ steps) (hne : steps ≠ [])
    (hplace : s.findAt? dir.components = some .directory)
    (hplace' : s'.findAt? dir'.components = some .directory)
    (hcontents : directoryContents? fs s dir = .ok contents) :
    VendorBuild.directoryContents? fs' s' dir' = .ok contents := by
  have hcoherent := (exists_directoryContents?_iff hfs hdir hplace).1 ⟨contents, hcontents⟩
  have hgathered := gathered_of_directoryContents? hfs hdir hplace hcontents
  rw [hcomp] at hcoherent hgathered
  obtain ⟨contents', hcontents'⟩ :=
    (exists_directoryContents?_iff hfs' hdir' hplace').2 (hcomp' ▸ h.coherent hne hcoherent)
  have hgathered' := gathered_of_directoryContents? hfs' hdir' hplace' hcontents'
  rw [hcomp'] at hgathered'
  rw [hcontents', (hgathered.congr (h.headerAt_iff hne)).eq hgathered']

/-- A directory adds the same package in stores with the same library. -/
theorem SameLibrary.scansAs (h : SameLibrary vendor s s') (hfs : FlatStore.UpToOrder fs)
    (hfs' : FlatStore.UpToOrder fs') (hdir : dir.isAbsolute = true) (hdir' : dir'.isAbsolute = true)
    (hcomp : dir.components = vendor.components ++ steps)
    (hcomp' : dir'.components = vendor.components ++ steps)
    (hplace : s.findAt? dir.components = some .directory) :
    ScansAs fs s fs' s' vendor dir dir' where
  path := by rw [importPathOf?_of_components hcomp, importPathOf?_of_components hcomp']
  contents hkey := by
    have hne : steps ≠ [] := by
      rintro rfl
      exact hkey (importPathOf?_of_components hcomp)
    have hplace' : s'.findAt? dir'.components = some .directory := by
      rwa [hcomp', ← h.directories steps, ← hcomp]
    refine Option.ext fun contents => ?_
    rw [Except.toOption_eq_some_iff, Except.toOption_eq_some_iff]
    exact ⟨h.sources.directoryContents? hfs hfs' hdir hdir' hcomp hcomp' hne hplace hplace',
      h.sources.symm.directoryContents? hfs' hfs hdir' hdir hcomp' hcomp hne hplace' hplace⟩

/-! ### Listings -/

theorem FlatStore.isAbsolute_locate (hroot : s.root.isAbsolute = true) (p : Path) :
    (s.locate p).isAbsolute = true := by
  by_cases hp : p.isAbsolute = true
  · rwa [locate_of_isAbsolute hp]
  · rw [locate, if_neg hp]
    exact (Path.components_join hroot (eq_false_of_ne_true hp)).1

theorem LeadsDown.prefix_locate (hv : LeadsDown vendor) (s : FlatStore) :
    vendor.components <+: (s.locate vendor).components := by
  obtain hv | hv := hv
  · rw [FlatStore.locate_of_isAbsolute hv]
  · rw [hv]
    exact List.nil_prefix

theorem Visits.exists_steps {dirs : List Path} (hvisits : Visits s (s.locate vendor) dirs)
    (hroot : s.root.isAbsolute = true) (hv : LeadsDown vendor) (hmem : dir ∈ dirs) :
    ∃ steps, dir.components = vendor.components ++ steps ∧ dir.isAbsolute = true ∧
      s.findAt? dir.components = some .directory := by
  obtain ⟨more, hmore⟩ := hv.prefix_locate s
  obtain ⟨steps, hcomp, hplace⟩ := hvisits.directory dir hmem
  refine ⟨more ++ steps, ?_, isAbsolute_of_below (FlatStore.isAbsolute_locate hroot _) hcomp, ?_⟩
  · rw [hcomp, ← hmore, List.append_assoc]
  · rwa [hcomp]

/-- Where paths differ, directories with the same path from the vendor directory have the same
package. -/
theorem Visits.scansApart {dirs : List Path} (hvisits : Visits s (s.locate vendor) dirs)
    (hfs : FlatStore.UpToOrder fs) (hroot : s.root.isAbsolute = true) (hv : LeadsDown vendor)
    (hdiffer : PathsDiffer s vendor) : ScansApart fs s vendor dirs := by
  intro dir hdir dir' hdir' p q hp hq hpath
  obtain ⟨steps, hcomp, habs, hplace⟩ := hvisits.exists_steps hroot hv hdir
  obtain ⟨steps', hcomp', habs', hplace'⟩ := hvisits.exists_steps hroot hv hdir'
  obtain ⟨hsources, hkey, hof⟩ := hp.isOf hfs habs hcomp (hcomp ▸ hplace)
  obtain ⟨hsources', hkey', hof'⟩ := hq.isOf hfs habs' hcomp' (hcomp' ▸ hplace')
  obtain rfl := hdiffer steps steps' hsources hsources' (hkey.trans (hpath.trans hkey'.symm))
  exact Package.eq_of_isOf hpath hof hof'

/-- A directory that is listed in one store is listed in one with the same library as well. -/
theorem SameLibrary.exists_scansAs {dirs dirs' : List Path} (h : SameLibrary vendor s s')
    (hfs : FlatStore.UpToOrder fs) (hfs' : FlatStore.UpToOrder fs') (hv : LeadsDown vendor)
    (hvisits : Visits s (s.locate vendor) dirs) (hvisits' : Visits s' (s'.locate vendor) dirs')
    (hmem : dir ∈ dirs) : ∃ dir' ∈ dirs', ScansAs fs s fs' s' vendor dir dir' := by
  obtain ⟨steps, hcomp, habs, hplace⟩ := hvisits.exists_steps h.rooted hv hmem
  have hplace' : s'.findAt? dir.components = some .directory := by
    rwa [hcomp, ← h.directories steps, ← hcomp]
  -- both stores list from the same place, and the same steps lead to the directory from there
  obtain ⟨below, hbelow, -⟩ := hvisits.directory dir hmem
  rw [hbelow, h.locate_eq] at hplace'
  obtain ⟨dir', hmem', hcomp'⟩ := hvisits'.all below hplace'
  rw [← h.locate_eq, ← hbelow] at hcomp'
  obtain ⟨-, -, habs', -⟩ := hvisits'.exists_steps h.symm.rooted hv hmem'
  exact ⟨dir', hmem', h.scansAs hfs hfs' habs habs' hcomp (hcomp'.trans hcomp) hplace⟩

/-! ### Packages -/

/-- Packages are found only below a vendor directory whose path leads down: no other path is the
start of those that are listed. -/
theorem leadsDown_of_discover {packages : PackageSet} (hfs : FlatStore.UpToOrder fs)
    (hroot : s.root.isAbsolute = true) (h : discover fs s vendor = .ok packages) :
    LeadsDown vendor := by
  obtain ⟨hdir, hscan⟩ := (discover_eq_ok_iff hfs).1 h
  obtain ⟨dirs, hdirs, hvisits⟩ := exists_visits_locate hfs hdir
  rw [FlatStore.isDirectory, decide_eq_true_eq, FlatStore.find?] at hdir
  obtain ⟨top, hmem, htop⟩ := hvisits.all [] (by rwa [List.append_nil])
  obtain ⟨found, hfound, -⟩ := Option.map_eq_some_iff.1 hscan
  rw [Except.toOption_eq_some_iff, scan_eq_ok_iff hdirs] at hfound
  obtain ⟨⟨key, hkey, -⟩, -⟩ := (scanFrom_accounted hfound.2).2 top hmem
  obtain ⟨steps, hsteps, -⟩ := exists_steps_of_importPathOf? hkey
  -- what is listed starts at the top, so a vendor path with any component starts there as well
  rw [htop, List.append_nil, Path.components_of_isAbsolute (FlatStore.isAbsolute_locate hroot _)]
    at hsteps
  cases hv : vendor.components with
  | nil => exact .inr hv
  | cons c rest =>
    rw [hv, List.cons_append, List.cons.injEq] at hsteps
    rw [← hsteps.1] at hv
    exact .inl (Path.isAbsolute_of_components hv)

theorem SameLibrary.isDirectory (h : SameLibrary vendor s s') (hv : LeadsDown vendor)
    (hdir : s.isDirectory vendor = true) : s'.isDirectory vendor = true := by
  obtain ⟨more, hmore⟩ := hv.prefix_locate s
  rw [FlatStore.isDirectory, decide_eq_true_eq, FlatStore.find?] at hdir ⊢
  rw [← h.locate_eq, ← hmore]
  exact (h.directories more).1 (hmore ▸ hdir)

/-- If packages can be told in one store, there are directories to scan in one with the same library
as well. -/
theorem SameLibrary.exists_visits {packages : PackageSet} (h : SameLibrary vendor s s')
    (hfs : FlatStore.UpToOrder fs) (hfs' : FlatStore.UpToOrder fs')
    (hfound : discover fs s vendor = .ok packages) :
    LeadsDown vendor ∧ ∃ dirs dirs',
      Visits s (s.locate vendor) dirs ∧ Visits s' (s'.locate vendor) dirs' ∧
      scanFrom fs s vendor .empty dirs = .ok packages ∧
      ∀ packages', scanFrom fs' s' vendor .empty dirs' = .ok packages' →
        discover fs' s' vendor = .ok packages' := by
  have hv := leadsDown_of_discover hfs h.rooted hfound
  obtain ⟨hdir, hscan⟩ := (discover_eq_ok_iff hfs).1 hfound
  have hdir' := h.isDirectory hv hdir
  obtain ⟨dirs, hdirs, hvisits⟩ := exists_visits_locate hfs hdir
  obtain ⟨dirs', hdirs', hvisits'⟩ := exists_visits_locate hfs' hdir'
  obtain ⟨found, hok, rfl⟩ := Option.map_eq_some_iff.1 hscan
  rw [Except.toOption_eq_some_iff, scan_eq_ok_iff hdirs] at hok
  refine ⟨hv, dirs, dirs', hvisits, hvisits', hok.2, fun packages' hok' => ?_⟩
  have hscan' : scan fs' s' vendor = .ok ⟨dirs'.length, packages'⟩ :=
    (scan_eq_ok_iff hdirs').2 ⟨rfl, hok'⟩
  refine (discover_eq_ok_iff hfs').2 ⟨hdir', ?_⟩
  rw [hscan']
  rfl

theorem SameLibrary.exists_discover {packages : PackageSet} (h : SameLibrary vendor s s')
    (hfs : FlatStore.UpToOrder fs) (hfs' : FlatStore.UpToOrder fs')
    (hfound : discover fs s vendor = .ok packages) :
    ∃ packages', discover fs' s' vendor = .ok packages' := by
  obtain ⟨hv, dirs, dirs', hvisits, hvisits', hok, hdiscover⟩ := h.exists_visits hfs hfs' hfound
  have hscannable := exists_scanFrom_iff.1 ⟨packages, hok⟩
  obtain ⟨packages', hok'⟩ : ∃ packages', scanFrom fs' s' vendor .empty dirs' = .ok packages' := by
    refine exists_scanFrom_iff.2 fun dir' hmem' => ?_
    obtain ⟨dir, hmem, hsame⟩ := h.symm.exists_scansAs hfs' hfs hv hvisits' hvisits hmem'
    exact hsame.symm.scannable (hscannable dir hmem)
  exact ⟨packages', hdiscover packages' hok'⟩

theorem SameLibrary.discover_eq_ok {packages : PackageSet} (h : SameLibrary vendor s s')
    (hfs : FlatStore.UpToOrder fs) (hfs' : FlatStore.UpToOrder fs') (hdiffer : PathsDiffer s vendor)
    (hfound : discover fs s vendor = .ok packages) : discover fs' s' vendor = .ok packages := by
  obtain ⟨hv, dirs, dirs', hvisits, hvisits', hok, hdiscover⟩ := h.exists_visits hfs hfs' hfound
  refine hdiscover packages (scanFrom_of_scansAs (hvisits.scansApart hfs h.rooted hv hdiffer)
    (hvisits'.scansApart hfs' h.symm.rooted hv (h.sources.pathsDiffer hdiffer)) ?_ ?_ hok)
  · exact fun dir hmem => h.exists_scansAs hfs hfs' hv hvisits hvisits' hmem
  · exact fun dir hmem => h.symm.exists_scansAs hfs' hfs hv hvisits' hvisits hmem

/-- In stores with the same library the same packages are found where paths differ, or in neither of
them any can be told. -/
theorem SameLibrary.discover (h : SameLibrary vendor s s') (hfs : FlatStore.UpToOrder fs)
    (hfs' : FlatStore.UpToOrder fs') (hdiffer : PathsDiffer s vendor) :
    (VendorBuild.discover fs s vendor).toOption =
      (VendorBuild.discover fs' s' vendor).toOption := by
  refine Option.ext fun packages => ?_
  rw [Except.toOption_eq_some_iff, Except.toOption_eq_some_iff]
  exact ⟨h.discover_eq_ok hfs hfs' hdiffer,
    h.symm.discover_eq_ok hfs' hfs (h.sources.pathsDiffer hdiffer)⟩

end

/-! ## What builds leave behind -/

section

variable {fs fs' : Storage FlatStore} {settings : Settings} {s s' : FlatStore}
  {builds : List Build} {report : Report}

theorem FlatStore.eq_put_of_write {p : Path} {text : String} (h : s.write p text = .ok s') :
    s' = s.put (s.locate p) (.file (Utf8.encode text)) := by
  unfold write at h
  split at h
  · cases h
  · split at h
    · cases h
      rfl
    · cases h

/-- The last of some builds whose build file goes to a place. -/
def lastBuildAt? (settings : Settings) (s : FlatStore) (builds : List Build)
    (place : List Component) : Option Build :=
  builds.reverse.find? fun b => (s.locate (b.file settings).path).components = place

theorem lastBuildAt?_congr (h : s.root = s'.root) :
    lastBuildAt? settings s builds = lastBuildAt? settings s' builds := by
  funext place
  simp only [lastBuildAt?, FlatStore.locate_congr h]

theorem lastBuildAt?_cons {b : Build} {place : List Component} :
    lastBuildAt? settings s (b :: builds) place =
      (lastBuildAt? settings s builds place).or
        (if (s.locate (b.file settings).path).components = place then some b else none) := by
  rw [lastBuildAt?, List.reverse_cons, List.find?_append, lastBuildAt?]
  simp [List.find?_singleton]

theorem exists_lastBuildAt? (settings : Settings) (s : FlatStore) {b : Build} (h : b ∈ builds) :
    ∃ d, lastBuildAt? settings s builds (s.locate (b.file settings).path).components = some d :=
  Option.isSome_iff_exists.1 (List.find?_isSome.2 ⟨b, List.mem_reverse.2 h, by simp⟩)

theorem writeAll_cons_eq_ok {σ : Type} {fs : Storage σ} {s : σ} {b : Build} {rest : List Build}
    (h : (writeAll fs settings (b :: rest) s).result = .ok report) :
    ∃ next report', fs.write s (b.file settings).path b.rule.render = .ok next ∧
      (writeAll fs settings rest next).result = .ok report' ∧
      report = b.generated settings :: report' ∧
      (writeAll fs settings (b :: rest) s).state = (writeAll fs settings rest next).state := by
  rw [writeAll] at h ⊢
  cases hwrite : b.write fs settings s with
  | error fault =>
    rw [hwrite] at h
    cases h
  | ok written =>
    obtain ⟨file, next⟩ := written
    obtain ⟨rfl, hput⟩ := Build.write_eq_ok hwrite
    simp only [hwrite] at h
    cases hrest : (writeAll fs settings rest next).result with
    | error fault =>
      rw [hrest] at h
      cases h
    | ok report' =>
      rw [hrest] at h
      exact ⟨next, report', hput, hrest, (Except.ok.inj h).symm, rfl⟩

theorem writeAll_eq_ok {σ : Type} {fs : Storage σ} {s : σ}
    (h : (writeAll fs settings builds s).result = .ok report) :
    report = builds.map (·.generated settings) := by
  induction builds generalizing s report with
  | nil => exact (Except.ok.inj h).symm
  | cons b rest ih =>
    obtain ⟨next, report', -, hrest, rfl, -⟩ := writeAll_cons_eq_ok h
    rw [ih hrest, List.map_cons]

/-- Where some of the builds have gone there is the text of the last of them, whatever was there
before. Elsewhere nothing has changed. -/
theorem findAt?_writeAll (h : (writeAll FlatStore.storage settings builds s).result = .ok report) :
    (writeAll FlatStore.storage settings builds s).state.root = s.root ∧
      ∀ place, (writeAll FlatStore.storage settings builds s).state.findAt? place =
        match lastBuildAt? settings s builds place with
        | some b => some (.file (Utf8.encode b.rule.render))
        | none => s.findAt? place := by
  induction builds generalizing s report with
  | nil => exact ⟨rfl, fun _ => rfl⟩
  | cons b rest ih =>
    obtain ⟨next, report', hwrite, hrest, -, hstate⟩ := writeAll_cons_eq_ok h
    have hnext := FlatStore.eq_put_of_write hwrite
    have hroot : next.root = s.root := by
      rw [hnext]
      rfl
    obtain ⟨hroot', hat⟩ := ih hrest
    rw [hstate]
    refine ⟨hroot'.trans hroot, fun place => ?_⟩
    -- what a later build writes at the place stands, and otherwise what this one does
    rw [hat place, lastBuildAt?_congr hroot, lastBuildAt?_cons]
    cases lastBuildAt? settings s rest place with
    | some d => rfl
    | none =>
      rw [hnext, FlatStore.findAt?_put, Option.none_or]
      by_cases hplace : (s.locate (b.file settings).path).components = place
      · rw [if_pos hplace, if_pos hplace]
      · rw [if_neg hplace, if_neg hplace]

theorem FlatStore.text?_of_findAt? {p : Path} {text : String}
    (h : s.findAt? (s.locate p).components = some (.file (Utf8.encode text))) :
    s.text? p = some text := by
  rw [text?, find?, h]
  exact congrArg some (Utf8.decodeLossy_of_decode? (Utf8.decode?_encode text))

/-- Writing the same builds leaves the same texts at their paths in stores with the same root. -/
theorem text?_writeAll {report' : Report} {b : Build} (hroot : s.root = s'.root)
    (h : (writeAll FlatStore.storage settings builds s).result = .ok report)
    (h' : (writeAll FlatStore.storage settings builds s').result = .ok report') (hb : b ∈ builds) :
    ∃ text,
      (writeAll FlatStore.storage settings builds s).state.text? (b.file settings).path =
        some text ∧
      (writeAll FlatStore.storage settings builds s').state.text? (b.file settings).path =
        some text := by
  obtain ⟨hkept, hat⟩ := findAt?_writeAll h
  obtain ⟨hkept', hat'⟩ := findAt?_writeAll h'
  obtain ⟨d, hlast⟩ := exists_lastBuildAt? settings s hb
  refine ⟨d.rule.render, FlatStore.text?_of_findAt? ?_, FlatStore.text?_of_findAt? ?_⟩
  · rw [FlatStore.locate_congr hkept, hat, hlast]
  · rw [FlatStore.locate_congr (hkept'.trans hroot.symm), hat', lastBuildAt?_congr hroot.symm,
      hlast]

/-! ## Runs -/

theorem run_eq_ok {σ : Type} {fs : Storage σ} {s : σ}
    (h : (run fs settings s).result = .ok report) :
    ∃ packages, discover fs s settings.vendorDir = .ok packages ∧
      (writeAll fs settings (plan packages settings.cell) s).result = .ok report ∧
      (run fs settings s).state = (writeAll fs settings (plan packages settings.cell) s).state := by
  cases hfound : discover fs s settings.vendorDir with
  | error cause =>
    rw [(run_of_discover_error hfound).1] at h
    cases h
  | ok packages =>
    obtain ⟨hresult, hstate⟩ := run_of_discover_ok hfound
    exact ⟨packages, rfl, hresult.symm.trans h, hstate⟩

/-- Nothing but the library has an influence on a run where paths differ. In stores with the same
library, whatever else differs and in whatever order they are listed, packages can be told in both
or in neither. Where paths differ the same packages are found. Runs that succeed with the same
settings then have the same report and leave the same text at the path of every build file. -/
theorem run_depends_on_library {vendor : Path} (h : SameLibrary vendor s s')
    (hfs : FlatStore.UpToOrder fs) (hfs' : FlatStore.UpToOrder fs') :
    ((∃ packages, discover fs s vendor = .ok packages) ↔
      ∃ packages, discover fs' s' vendor = .ok packages) ∧
    (PathsDiffer s vendor →
      (discover fs s vendor).toOption = (discover fs' s' vendor).toOption ∧
        ∀ settings report report', settings.vendorDir = vendor →
          (run fs settings s).result = .ok report → (run fs' settings s').result = .ok report' →
            report = report' ∧ ∃ packages, discover fs s vendor = .ok packages ∧
              ∀ b ∈ plan packages settings.cell, ∃ text,
                (run fs settings s).state.text? (b.file settings).path = some text ∧
                (run fs' settings s').state.text? (b.file settings).path = some text) := by
  refine ⟨⟨?_, ?_⟩, fun hdiffer => ⟨h.discover hfs hfs' hdiffer, ?_⟩⟩
  · rintro ⟨packages, hfound⟩
    exact h.exists_discover hfs hfs' hfound
  · rintro ⟨packages, hfound⟩
    exact h.symm.exists_discover hfs' hfs hfound
  rintro settings report report' rfl hrun hrun'
  obtain ⟨packages, hfound, hwrite, hstate⟩ := run_eq_ok hrun
  obtain ⟨packages', hfound', hwrite', hstate'⟩ := run_eq_ok hrun'
  obtain rfl : packages = packages' :=
    Except.ok.inj ((h.discover_eq_ok hfs hfs' hdiffer hfound).symm.trans hfound')
  -- the order of listing plays no part in writing, so both runs write over the flat store itself
  have hlist : ∀ s, writeAll fs settings (plan packages settings.cell) s =
      writeAll FlatStore.storage settings (plan packages settings.cell) s :=
    writeAll_congr hfs.write settings _
  have hlist' : ∀ s, writeAll fs' settings (plan packages settings.cell) s =
      writeAll FlatStore.storage settings (plan packages settings.cell) s :=
    writeAll_congr hfs'.write settings _
  rw [hstate, hstate', hlist, hlist']
  rw [hlist] at hwrite
  rw [hlist'] at hwrite'
  refine ⟨(writeAll_eq_ok hwrite).trans (writeAll_eq_ok hwrite').symm, packages, hfound, ?_⟩
  exact fun b hb => text?_writeAll h.root hwrite hwrite' hb

/-- The vendored tree of two packages with a build file written by hand, and a file outside. -/
def handEdited : FlatStore :=
  (twoPackages.put ⟨"/r/vendor/a/BUCK"⟩ (.file (Utf8.encode "by hand"))).put ⟨"/r/README"⟩
    (.file [0xFF])

theorem sameLibrary_handEdited : SameLibrary ⟨"/r/vendor"⟩ twoPackages handEdited :=
  (SameLibrary.put_file (by decide +kernel) (.inr (by decide +kernel)) (by decide +kernel)).trans
    (.put_outside (by decide) (by decide))

theorem run_handEdited :
    ∃ packages, discover FlatStore.backwards handEdited ⟨"/r/vendor"⟩ = .ok packages ∧
      ∀ b ∈ plan packages "vendor", ∃ text,
        (run FlatStore.backwards { root := ⟨"/r"⟩ } handEdited).state.text?
            (b.file { root := ⟨"/r"⟩ }).path = some text ∧
        (run FlatStore.storage { root := ⟨"/r"⟩ } twoPackages).state.text?
            (b.file { root := ⟨"/r"⟩ }).path = some text := by
  have hrun : (run FlatStore.backwards { root := ⟨"/r"⟩ } handEdited).result =
      .ok [⟨"vendor/a/BUCK", ["//vendor/b:b"]⟩, ⟨"vendor/b/BUCK", []⟩] := by decide +kernel
  have hdiffer : PathsDiffer handEdited ⟨"/r/vendor"⟩ :=
    (textNames_of_entries (by decide +kernel)).pathsDiffer (by decide +kernel)
  obtain ⟨-, hsame⟩ := run_depends_on_library sameLibrary_handEdited.symm
    FlatStore.upToOrder_backwards FlatStore.upToOrder_storage
  exact ((hsame hdiffer).2 { root := ⟨"/r"⟩ } _ _ (by decide) hrun run_twoPackages).2

/-- Two runs over one store in which two paths read the same, in two orders of listing. They find
different packages under the one import path, and leave different texts at the path of its build
file. -/
theorem run_depends_on_order :
    SameLibrary ⟨"/r/vendor"⟩ namedAlike namedAlike ∧
      (discover FlatStore.storage namedAlike ⟨"/r/vendor"⟩).toOption.map
        (·.entries.map fun e => (e.1, e.2.name)) = some [("\uFFFD", "b")] ∧
      (discover FlatStore.backwards namedAlike ⟨"/r/vendor"⟩).toOption.map
        (·.entries.map fun e => (e.1, e.2.name)) = some [("\uFFFD", "a")] ∧
      (run FlatStore.storage { root := ⟨"/r"⟩ } namedAlike).result.toOption.isSome = true ∧
      (run FlatStore.backwards { root := ⟨"/r"⟩ } namedAlike).result.toOption.isSome = true ∧
      (run FlatStore.storage { root := ⟨"/r"⟩ } namedAlike).state.text?
          ⟨"/r/vendor/\uFFFD/BUCK"⟩ ≠
        (run FlatStore.backwards { root := ⟨"/r"⟩ } namedAlike).state.text?
          ⟨"/r/vendor/\uFFFD/BUCK"⟩ := by
  refine ⟨.refl (by decide), ?_⟩
  decide +kernel

end

end VendorBuild
