import VendorBuild.Proofs.Sources
import Mathlib.Data.Set.Card

/-!
# Surveys of a vendored tree

A scan visits every directory of the tree, so it finds exactly the packages of the directories with
sources. It succeeds if the sources in each directory are coherent. As long as different directories
have different paths from the vendor directory, no package is lost to another, and in whatever order
the directories are listed, the packages are the same. Names that are texts make for different
paths.

Results:
* `scanFrom_accounted`: no directory visited is left out.
* `exists_scan_iff`: when a tree can be scanned.
* `find?_scan_iff`: which packages are found.
* `describes_of_scan`: how the packages found go with the directories that hold sources.
* `place_of_discover`, `directory_of_discover`: where the package of an import path was found.
-/

namespace VendorBuild

/-! ## Maps -/

namespace NameMap

variable {α : Type} {m m' : NameMap α} {key other : String} {value : α}

theorem contains_put :
    (m.put key value).contains other = true ↔ key = other ∨ m.contains other = true := by
  rw [contains, find?_put, contains]
  split <;> simp_all

theorem nodup_keys (m : NameMap α) : (m.entries.map (·.1)).Nodup := by
  refine List.pairwise_map.2 (m.increasing.imp fun {a b} hlt heq => ?_)
  rw [heq] at hlt
  exact String.lt_irrefl _ hlt

theorem ncard_contains (m : NameMap α) : {key | m.contains key = true}.ncard = m.size := by
  have hkeys : {key | m.contains key = true} = ((m.entries.map (·.1)).toFinset : Set String) := by
    ext key
    simp [contains, Option.isSome_iff_exists, ← mem_entries_iff]
  rw [hkeys, Set.ncard_coe_finset, List.toFinset_card_of_nodup m.nodup_keys, List.length_map, size]

theorem ext_find? (h : ∀ key, m.find? key = m'.find? key) : m = m' := by
  have hperm : m.entries.Perm m'.entries :=
    (List.perm_ext_iff_of_nodup m.nodup_keys.of_map m'.nodup_keys.of_map).2 fun e => by
      rw [mem_entries_iff, mem_entries_iff, h]
  have heq := hperm.eq_of_pairwise
    (fun a b _ _ hab hba => absurd (String.lt_trans hab hba) (String.lt_irrefl _))
    m.increasing m'.increasing
  cases m
  cases m'
  simpa using heq

end NameMap

/-! ## No directory is left out -/

section

variable {σ : Type} {fs : Storage σ} {s : σ} {vendor dir : Path} {dirs : List Path}
  {found found' : PackageSet}

/-- Whether a directory can be scanned: it lies at the vendor directory, or below it and its
contents can be told. -/
def Scannable (fs : Storage σ) (s : σ) (vendor dir : Path) : Prop :=
  ∃ key, importPathOf? vendor dir = some key ∧
    (key ≠ "" → ∃ contents, directoryContents? fs s dir = .ok contents)

/-- Whether a set of packages has the one of a directory, if that has contents. -/
def Accounted (fs : Storage σ) (s : σ) (vendor : Path) (packages : PackageSet) (dir : Path) :
    Prop :=
  ∀ key c, importPathOf? vendor dir = some key → key ≠ "" →
    directoryContents? fs s dir = .ok (some c) → packages.contains key = true

theorem scanDirectory_accounted (h : scanDirectory fs s vendor found dir = .ok found') :
    (∀ key, found.contains key = true → found'.contains key = true) ∧
      Scannable fs s vendor dir ∧ Accounted fs s vendor found' dir := by
  unfold scanDirectory at h
  split at h
  · cases h
  rename_i key hkey
  split at h
  · rename_i hempty
    cases h
    refine ⟨fun _ => id, ⟨key, hkey, fun hne => absurd hempty hne⟩, fun key' c hkey' hne => ?_⟩
    cases hkey.symm.trans hkey'
    exact absurd hempty hne
  split at h
  · cases h
  · rename_i hcontents
    cases h
    refine ⟨fun _ => id, ⟨key, hkey, fun _ => ⟨none, hcontents⟩⟩, fun key' c _ _ hc => ?_⟩
    cases hcontents.symm.trans hc
  · rename_i contents hcontents
    cases h
    refine ⟨fun _ hold => NameMap.contains_put.2 (.inr hold),
      ⟨key, hkey, fun _ => ⟨_, hcontents⟩⟩, fun key' c hkey' _ _ => ?_⟩
    cases hkey.symm.trans hkey'
    exact NameMap.contains_put.2 (.inl rfl)

/-- No directory visited is left out, and none could not be scanned. -/
theorem scanFrom_accounted (h : scanFrom fs s vendor found dirs = .ok found') :
    (∀ key, found.contains key = true → found'.contains key = true) ∧
      ∀ dir ∈ dirs, Scannable fs s vendor dir ∧ Accounted fs s vendor found' dir := by
  induction dirs generalizing found with
  | nil =>
    cases h
    exact ⟨fun _ => id, List.forall_mem_nil _⟩
  | cons dir rest ih =>
    rw [scanFrom] at h
    split at h
    · cases h
    rename_i next hnext
    obtain ⟨hkeep, hscan, haccount⟩ := scanDirectory_accounted hnext
    obtain ⟨hkeep', hrest⟩ := ih h
    have hdir : Accounted fs s vendor found' dir :=
      fun key c hkey hne hc => hkeep' key (haccount key c hkey hne hc)
    exact ⟨fun key hold => hkeep' key (hkeep key hold),
      List.forall_mem_cons.2 ⟨⟨hscan, hdir⟩, hrest⟩⟩

theorem exists_scanFrom_eq_ok (h : ∀ dir ∈ dirs, Scannable fs s vendor dir) :
    ∃ found', scanFrom fs s vendor found dirs = .ok found' := by
  induction dirs generalizing found with
  | nil => exact ⟨found, rfl⟩
  | cons dir rest ih =>
    obtain ⟨⟨key, hkey, hcontents⟩, hrest⟩ := List.forall_mem_cons.1 h
    have hnext : ∃ next, scanDirectory fs s vendor found dir = .ok next := by
      simp only [scanDirectory, hkey]
      split
      · exact ⟨found, rfl⟩
      · rename_i hne
        obtain ⟨_ | c, hc⟩ := hcontents hne <;> rw [hc] <;> exact ⟨_, rfl⟩
    obtain ⟨next, hnext⟩ := hnext
    rw [scanFrom, hnext]
    exact ih hrest

end

/-! ## The directories of a flat store -/

section

variable {fs : Storage FlatStore} {s : FlatStore} {vendor dir : Path} {steps : List Component}
  {found : Scan}

theorem FlatStore.isStep_of_findAt? {node : FlatNode} (hv : vendor.isAbsolute = true)
    (h : s.findAt? (vendor.components ++ steps) = some node) : ∀ c ∈ steps, c.IsStep := by
  obtain ⟨e, -, hcomp, -⟩ := exists_entry_of_findAt? h
  exact isStep_of_below hv hcomp

/-- Whether some paths lead to the directories at and below the vendor directory, and to all of
them. -/
structure Visits (s : FlatStore) (vendor : Path) (dirs : List Path) : Prop where
  directory : ∀ dir ∈ dirs, ∃ steps, dir.components = vendor.components ++ steps ∧
    s.findAt? (vendor.components ++ steps) = some .directory
  all : ∀ steps, s.findAt? (vendor.components ++ steps) = some .directory →
    ∃ dir ∈ dirs, dir.components = vendor.components ++ steps

theorem FlatStore.contains_of_isDirectory {p : Path} (h : s.isDirectory p = true) :
    s.contains p = true := by
  rw [isDirectory, decide_eq_true_eq] at h
  rw [contains, h]
  rfl

/-- A listing visits the directories at and below the place that the vendor directory means. -/
theorem exists_visits_locate (hfs : FlatStore.UpToOrder fs) (hdir : s.isDirectory vendor = true) :
    ∃ dirs, fs.directories s vendor = .ok dirs ∧ Visits s (s.locate vendor) dirs := by
  have hlist := hfs.directories s vendor
  rw [FlatStore.directories, if_pos (FlatStore.contains_of_isDirectory hdir)] at hlist
  obtain ⟨dirs, hdirs, hperm⟩ := hlist.exists_perm
  have hmem : ∀ dir, dir ∈ dirs ↔
      ∃ e ∈ s.entries,
        (e.node = .directory ∧ (s.locate vendor).components <+: e.path.components) ∧
        e.path = dir := by
    intro dir
    simp [← hperm.mem_iff, Path.isUnder, and_assoc]
  refine ⟨dirs, hdirs, fun dir h => ?_, fun steps h => ?_⟩
  · obtain ⟨e, he, ⟨hnode, steps, hsteps⟩, rfl⟩ := (hmem dir).1 h
    exact ⟨steps, hsteps.symm, hsteps ▸ hnode ▸ FlatStore.findAt?_of_mem_entries he⟩
  · obtain ⟨e, he, hcomp, hnode⟩ := FlatStore.exists_entry_of_findAt? h
    exact ⟨e.path, (hmem _).2 ⟨e, he, ⟨hnode, hcomp ▸ List.prefix_append ..⟩, rfl⟩, hcomp⟩

theorem exists_visits (hfs : FlatStore.UpToOrder fs) (hv : vendor.isAbsolute = true)
    (hdir : s.isDirectory vendor = true) :
    ∃ dirs, fs.directories s vendor = .ok dirs ∧ Visits s vendor dirs := by
  have hvisits := exists_visits_locate hfs hdir
  rwa [FlatStore.locate_of_isAbsolute hv] at hvisits

/-- A directory can be scanned unless it lies below the vendor directory and its sources are not
coherent. -/
theorem scannable_iff (hfs : FlatStore.UpToOrder fs) (hv : vendor.isAbsolute = true)
    (hcomp : dir.components = vendor.components ++ steps)
    (hplace : s.findAt? (vendor.components ++ steps) = some .directory) :
    Scannable fs s vendor dir ↔ (steps ≠ [] → Coherent s (vendor.components ++ steps)) := by
  have hcontents := exists_directoryContents?_iff hfs (isAbsolute_of_below hv hcomp)
    (hcomp.symm ▸ hplace)
  have hne : spelledPath steps ≠ "" ↔ steps ≠ [] :=
    not_congr (spelledPath_eq_empty_iff (FlatStore.isStep_of_findAt? hv hplace))
  rw [Scannable, ← hcomp, ← hcontents, ← hne]
  simp [importPathOf?_of_components hcomp]

theorem scan_eq_ok_iff {dirs : List Path} (h : fs.directories s vendor = .ok dirs) :
    scan fs s vendor = .ok found ↔
      found.directories = dirs.length ∧ scanFrom fs s vendor .empty dirs = .ok found.packages := by
  obtain ⟨directories, packages⟩ := found
  rw [scan, h]
  cases hscan : scanFrom fs s vendor .empty dirs with
  | error fault => simp [hscan, Except.map]
  | ok packages => simp [hscan, Except.map, eq_comm]

/-! ## What a scan finds -/

/-- A tree can be scanned exactly if the sources in each directory below the vendor directory are
coherent. -/
theorem exists_scan_iff (hfs : FlatStore.UpToOrder fs) (hv : vendor.isAbsolute = true)
    (hdir : s.isDirectory vendor = true) :
    (∃ found, scan fs s vendor = .ok found) ↔
      ∀ steps, steps ≠ [] → Coherent s (vendor.components ++ steps) := by
  obtain ⟨dirs, hdirs, hvisits⟩ := exists_visits hfs hv hdir
  constructor
  · rintro ⟨found, h⟩ steps hne
    by_cases hplace : s.findAt? (vendor.components ++ steps) = some .directory
    · obtain ⟨dir, hmem, hcomp⟩ := hvisits.all steps hplace
      have hscan := ((scanFrom_accounted ((scan_eq_ok_iff hdirs).1 h).2).2 dir hmem).1
      exact (scannable_iff hfs hv hcomp hplace).1 hscan hne
    -- elsewhere there are no sources at all
    · refine ⟨fun name bytes hs => absurd hs.directory hplace, ?_⟩
      rintro _ _ ⟨_, _, hs, -⟩
      exact absurd hs.directory hplace
  · intro hcoherent
    obtain ⟨packages, hscan⟩ : ∃ packages, scanFrom fs s vendor .empty dirs = .ok packages := by
      refine exists_scanFrom_eq_ok fun dir hmem => ?_
      obtain ⟨steps, hcomp, hplace⟩ := hvisits.directory dir hmem
      exact (scannable_iff hfs hv hcomp hplace).2 (hcoherent steps)
    exact ⟨⟨dirs.length, packages⟩, (scan_eq_ok_iff hdirs).2 ⟨rfl, hscan⟩⟩

/-! ### Directories with sources -/

/-- Whether there are sources in the directory that some steps lead to from the vendor directory. -/
def HasSources (s : FlatStore) (vendor : Path) (steps : List Component) : Prop :=
  steps ≠ [] ∧ ∃ name bytes, IsSource s (vendor.components ++ steps) name bytes

theorem HasSources.directory (h : HasSources s vendor steps) :
    s.findAt? (vendor.components ++ steps) = some .directory := by
  obtain ⟨-, _, _, hsource⟩ := h
  exact hsource.directory

theorem HasSources.isStep (hv : vendor.isAbsolute = true) (h : HasSources s vendor steps) :
    ∀ c ∈ steps, c.IsStep :=
  FlatStore.isStep_of_findAt? hv h.directory

/-- Whether different directories with sources have different paths from the vendor directory. -/
def PathsDiffer (s : FlatStore) (vendor : Path) : Prop :=
  ∀ steps steps', HasSources s vendor steps → HasSources s vendor steps' →
    spelledPath steps = spelledPath steps' → steps = steps'

/-- Whether the names on the way from the vendor directory to sources are texts. -/
def TextNames (s : FlatStore) (vendor : Path) : Prop :=
  ∀ steps, HasSources s vendor steps → ∀ c ∈ steps, c.IsText

theorem textNames_of_entries (h : ∀ e ∈ s.entries, ∀ c ∈ e.path.components, c.IsText) :
    TextNames s vendor := by
  intro steps hs c hc
  obtain ⟨e, he, hplace, -⟩ := FlatStore.exists_entry_of_findAt? hs.directory
  exact h e he c (hplace ▸ List.mem_append_right _ hc)

/-- Names that are texts can be told from what they read as. -/
theorem TextNames.pathsDiffer (hv : vendor.isAbsolute = true) (h : TextNames s vendor) :
    PathsDiffer s vendor := by
  intro steps steps' hs hs' heq
  rw [spelledPath_eq_iff (hs.isStep hv) (hs'.isStep hv),
    Component.map_reading_eq_self_iff.2 (h steps hs),
    Component.map_reading_eq_self_iff.2 (h steps' hs')] at heq
  exact heq

theorem contains_of_hasSources (hfs : FlatStore.UpToOrder fs) (hv : vendor.isAbsolute = true)
    (hdir : s.isDirectory vendor = true) (h : scan fs s vendor = .ok found)
    (hsources : HasSources s vendor steps) :
    found.packages.contains (spelledPath steps) = true := by
  obtain ⟨hne, name, bytes, hsource⟩ := hsources
  obtain ⟨dirs, hdirs, hvisits⟩ := exists_visits hfs hv hdir
  have hplace := hsource.directory
  obtain ⟨dir, hmem, hcomp⟩ := hvisits.all steps hplace
  obtain ⟨⟨key, hkey, hcan⟩, haccount⟩ :=
    (scanFrom_accounted ((scan_eq_ok_iff hdirs).1 h).2).2 dir hmem
  cases (importPathOf?_of_components hcomp).symm.trans hkey
  have hkey' : spelledPath steps ≠ "" :=
    mt (spelledPath_eq_empty_iff (FlatStore.isStep_of_findAt? hv hplace)).1 hne
  obtain ⟨contents, hcontents⟩ := hcan hkey'
  have hgathered := gathered_of_directoryContents? hfs (isAbsolute_of_below hv hcomp)
    (hcomp.symm ▸ hplace) hcontents
  rw [hcomp] at hgathered
  -- the source has a header, so the directory is not without contents
  have hcoherent := (exists_scan_iff hfs hv hdir).1 ⟨found, h⟩ steps hne
  obtain ⟨header, hheader⟩ := hcoherent.readable name bytes hsource
  cases contents with
  | none => exact absurd ⟨name, bytes, hsource, hheader⟩ (hgathered header)
  | some c => exact haccount _ c hkey hkey' hcontents

/-- A package is what the sources of its directory declare together. -/
theorem IsPackageOf.isOf {p : Package} (hfs : FlatStore.UpToOrder fs)
    (hdir : dir.isAbsolute = true) (hcomp : dir.components = vendor.components ++ steps)
    (hplace : s.findAt? (vendor.components ++ steps) = some .directory)
    (hp : IsPackageOf fs s vendor dir p) :
    HasSources s vendor steps ∧ spelledPath steps = p.importPath ∧
      Contents.IsOf (HeaderAt s (vendor.components ++ steps)) ⟨p.name, p.imports⟩ := by
  have hkey : spelledPath steps = p.importPath :=
    Option.some.inj ((importPathOf?_of_components hcomp).symm.trans hp.path)
  have hne : steps ≠ [] := by
    rintro rfl
    exact hp.ne_empty hkey.symm
  have hcontents := gathered_of_directoryContents? hfs hdir (hcomp.symm ▸ hplace) hp.contents
  rw [hcomp] at hcontents
  obtain ⟨_, name, bytes, hsource, -⟩ := hcontents.inhabited
  exact ⟨⟨hne, name, bytes, hsource⟩, hkey, hcontents⟩

/-- A package found is what the sources of some directory declare together. -/
theorem isOf_of_find? {key : String} {p : Package} (hfs : FlatStore.UpToOrder fs)
    (hv : vendor.isAbsolute = true) (hdir : s.isDirectory vendor = true)
    (h : scan fs s vendor = .ok found) (hp : found.packages.find? key = some p) :
    p.importPath = key ∧ ∃ steps, HasSources s vendor steps ∧ spelledPath steps = key ∧
      Contents.IsOf (HeaderAt s (vendor.components ++ steps)) ⟨p.name, p.imports⟩ := by
  obtain ⟨dirs, hdirs, hvisits⟩ := exists_visits hfs hv hdir
  have hfound : Found fs s vendor dirs found.packages :=
    scanFrom_found found_empty ((scan_eq_ok_iff hdirs).1 h).2
  obtain ⟨rfl, dir, hmem, hof⟩ := hfound key p hp
  obtain ⟨steps, hcomp, hplace⟩ := hvisits.directory dir hmem
  exact ⟨rfl, steps, hof.isOf hfs (isAbsolute_of_below hv hcomp) hcomp hplace⟩

/-- Where paths differ, the packages found are those that the sources of some directory below the
vendor directory declare together, each under the path from there. -/
theorem find?_scan_iff {key : String} {p : Package} (hfs : FlatStore.UpToOrder fs)
    (hv : vendor.isAbsolute = true) (hdir : s.isDirectory vendor = true)
    (hdiffer : PathsDiffer s vendor) (h : scan fs s vendor = .ok found) :
    found.packages.find? key = some p ↔
      p.importPath = key ∧ ∃ steps, HasSources s vendor steps ∧ spelledPath steps = key ∧
        Contents.IsOf (HeaderAt s (vendor.components ++ steps)) ⟨p.name, p.imports⟩ := by
  refine ⟨isOf_of_find? hfs hv hdir h, ?_⟩
  rintro ⟨rfl, steps, hsources, hkey, hof⟩
  have hsome := contains_of_hasSources hfs hv hdir h hsources
  rw [hkey] at hsome
  obtain ⟨q, hq⟩ := Option.isSome_iff_exists.1 hsome
  obtain ⟨hpath, steps', hsources', hkey', hof'⟩ := isOf_of_find? hfs hv hdir h hq
  rw [hdiffer steps' steps hsources' hsources (hkey'.trans hkey.symm)] at hof'
  rw [hq, Package.eq_of_isOf hpath hof' hof]

/-! ## Packages and directories -/

/-- Whether some packages are those of the directories with sources: each is listed under its own
path, which is that of such a directory, and is what the sources there declare together. None of the
paths is left out, and there are as many packages as directories exactly if the paths differ. -/
structure Describes (s : FlatStore) (vendor : Path) (packages : PackageSet) : Prop where
  contains_iff : ∀ key, packages.contains key = true ↔
    ∃ steps, HasSources s vendor steps ∧ spelledPath steps = key
  importPath : ∀ key p, packages.find? key = some p → p.importPath = key
  contents : ∀ key p, packages.find? key = some p →
    ∃ steps, HasSources s vendor steps ∧ spelledPath steps = key ∧
      Contents.IsOf (HeaderAt s (vendor.components ++ steps)) ⟨p.name, p.imports⟩
  size_iff : packages.size = {steps | HasSources s vendor steps}.ncard ↔ PathsDiffer s vendor

theorem contains_scan_iff (hfs : FlatStore.UpToOrder fs) (hv : vendor.isAbsolute = true)
    (hdir : s.isDirectory vendor = true) (h : scan fs s vendor = .ok found) (key : String) :
    found.packages.contains key = true ↔
      ∃ steps, HasSources s vendor steps ∧ spelledPath steps = key := by
  constructor
  · intro hsome
    obtain ⟨p, hp⟩ := Option.isSome_iff_exists.1 hsome
    obtain ⟨-, steps, hsources, hkey, -⟩ := isOf_of_find? hfs hv hdir h hp
    exact ⟨steps, hsources, hkey⟩
  · rintro ⟨steps, hsources, rfl⟩
    exact contains_of_hasSources hfs hv hdir h hsources

theorem finite_hasSources (s : FlatStore) (vendor : Path) :
    {steps | HasSources s vendor steps}.Finite := by
  have hplaces := (s.entries.map (·.path.components)).finite_toSet
  refine (hplaces.preimage (List.append_right_injective vendor.components).injOn).subset ?_
  intro steps hs
  obtain ⟨e, he, hplace, -⟩ := FlatStore.exists_entry_of_findAt? hs.directory
  exact List.mem_map.2 ⟨e, he, hplace⟩

/-- There are as many packages as directories with sources exactly if the paths of these differ. -/
theorem size_scan_iff (hfs : FlatStore.UpToOrder fs) (hv : vendor.isAbsolute = true)
    (hdir : s.isDirectory vendor = true) (h : scan fs s vendor = .ok found) :
    found.packages.size = {steps | HasSources s vendor steps}.ncard ↔ PathsDiffer s vendor := by
  have himage : {key | found.packages.contains key = true} =
      spelledPath '' {steps | HasSources s vendor steps} := by
    ext key
    exact contains_scan_iff hfs hv hdir h key
  rw [← NameMap.ncard_contains, himage, Set.ncard_image_iff (finite_hasSources s vendor)]
  exact ⟨fun hinj steps steps' hs hs' => hinj hs hs',
    fun hdiffer steps hs steps' hs' => hdiffer steps steps' hs hs'⟩

theorem describes_of_scan (hfs : FlatStore.UpToOrder fs) (hv : vendor.isAbsolute = true)
    (hdir : s.isDirectory vendor = true) (h : scan fs s vendor = .ok found) :
    Describes s vendor found.packages where
  contains_iff := contains_scan_iff hfs hv hdir h
  importPath _ _ hp := (isOf_of_find? hfs hv hdir h hp).1
  contents _ _ hp := (isOf_of_find? hfs hv hdir h hp).2
  size_iff := size_scan_iff hfs hv hdir h

/-! ## Discovery -/

/-- Packages can be told where the vendor directory is one and can be scanned. -/
theorem discover_eq_ok_iff {packages : PackageSet} (hfs : FlatStore.UpToOrder fs) :
    discover fs s vendor = .ok packages ↔
      s.isDirectory vendor = true ∧
        (scan fs s vendor).toOption.map (·.packages) = some packages := by
  have hcheck : checkVendor fs s vendor = .ok () ↔ s.isDirectory vendor = true := by
    rw [checkVendor, hfs.contains, hfs.isDirectory]
    by_cases hdir : s.isDirectory vendor = true
    · simp [hdir, FlatStore.contains_of_isDirectory hdir]
    · split <;> simp [hdir]
  rw [discover_eq_ok_iff_scan, hcheck]
  simp only [Option.map_eq_some_iff, Except.toOption_eq_some_iff]

/-- A package discovered lies under its own import path, which spells what the steps to a directory
with sources read as. -/
theorem place_of_discover {packages : PackageSet} {e : String × Package}
    (hfs : FlatStore.UpToOrder fs) (hv : vendor.isAbsolute = true)
    (h : discover fs s vendor = .ok packages) (he : e ∈ packages.entries) :
    e.1 = e.2.importPath ∧ e.1 ≠ "" ∧ IsImportPath e.1 ∧
      ∃ steps, HasSources s vendor steps ∧ Path.steps e.1 = steps.map Component.reading := by
  obtain ⟨hdir, hscan⟩ := (discover_eq_ok_iff hfs).1 h
  obtain ⟨found, hfound, rfl⟩ := Option.map_eq_some_iff.1 hscan
  obtain ⟨hkey, steps, hsources, hspelled, -⟩ := isOf_of_find? hfs hv hdir
    (Except.toOption_eq_some_iff.1 hfound) (NameMap.mem_entries_iff.1 he)
  have hsteps := hsources.isStep hv
  refine ⟨hkey.symm, ?_, ?_, steps, hsources, ?_⟩ <;> rw [← hspelled]
  · exact mt (spelledPath_eq_empty_iff hsteps).1 hsources.1
  · exact isImportPath_spelledPath hsteps
  · exact steps_spelledPath hsteps

/-- Where names are texts, the directory of a package discovered lies where its import path leads. -/
theorem directory_of_discover {packages : PackageSet} {e : String × Package}
    (hfs : FlatStore.UpToOrder fs) (hv : vendor.isAbsolute = true) (htexts : TextNames s vendor)
    (h : discover fs s vendor = .ok packages) (he : e ∈ packages.entries) :
    s.findAt? (vendor.components ++ Path.steps e.1) = some .directory := by
  obtain ⟨-, -, -, steps, hsources, hread⟩ := place_of_discover hfs hv h he
  rw [hread, Component.map_reading_eq_self_iff.2 (htexts steps hsources), hsources.directory]

end

end VendorBuild
