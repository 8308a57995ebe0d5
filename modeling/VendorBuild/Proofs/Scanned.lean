import VendorBuild.Proofs.Places
import VendorBuild.Storage.Flat

/-!
# What a scan finds

Every package that a scan adds is that of one of the directories it visits, under the import path of
that directory.

Results:
* `scanFrom_found`: each package found is that of a directory visited.
* `found_of_scan`, `found_of_discover`: each package found is that of a directory of the vendored
  tree.
* `discover_eq_ok_iff_scan`, `discover_eq_error_iff`: when the packages of a tree can be told, and
  why not.
-/

namespace VendorBuild

theorem Except.toOption_eq_some_iff {ε α : Type} {answer : Except ε α} {a : α} :
    answer.toOption = some a ↔ answer = .ok a := by
  cases answer <;> simp [Except.toOption]

theorem find?_key_of_mem {α β : Type} [DecidableEq β] {key : α → β} {l : List α} {a : α}
    (h : l.Pairwise fun a b => key a ≠ key b) (ha : a ∈ l) :
    l.find? (key · = key a) = some a := by
  induction l with
  | nil => cases ha
  | cons d rest ih =>
    obtain ⟨hd, hrest⟩ := List.pairwise_cons.1 h
    rcases List.mem_cons.1 ha with rfl | hmem
    · simp
    · rw [List.find?_cons_of_neg (by simpa using hd a hmem)]
      exact ih hrest hmem

/-- Where no two values have the same key, the value found under a key is the one it goes with. -/
theorem map_find?_eq_some_iff {α β : Type} [DecidableEq α] {l : List (α × β)} {key : α} {value : β}
    (h : l.Pairwise fun a b => a.1 ≠ b.1) :
    (l.find? (·.1 = key)).map (·.2) = some value ↔ (key, value) ∈ l := by
  constructor
  · intro hfound
    obtain ⟨e, he, rfl⟩ := Option.map_eq_some_iff.1 hfound
    have hkey : e.1 = key := by simpa using List.find?_some he
    exact hkey ▸ List.mem_of_find?_eq_some he
  · intro hmem
    rw [find?_key_of_mem h hmem]
    rfl

section

variable {σ : Type} {fs : Storage σ} {s : σ} {vendor : Path}

/-- A package is what the sources of a directory below the vendor directory declare together. -/
structure IsPackageOf (fs : Storage σ) (s : σ) (vendor dir : Path) (p : Package) : Prop where
  path : importPathOf? vendor dir = some p.importPath
  ne_empty : p.importPath ≠ ""
  contents : directoryContents? fs s dir = .ok (some ⟨p.name, p.imports⟩)

/-- Every package of a set lies under its import path and is that of one of some directories. -/
def Found (fs : Storage σ) (s : σ) (vendor : Path) (dirs : List Path) (packages : PackageSet) :
    Prop :=
  ∀ key p, packages.find? key = some p →
    key = p.importPath ∧ ∃ dir ∈ dirs, IsPackageOf fs s vendor dir p

theorem found_empty : Found fs s vendor [] .empty := by
  intro key p h
  cases h

theorem Found.mono {dirs more : List Path} {packages : PackageSet}
    (h : Found fs s vendor dirs packages) (hsub : ∀ dir ∈ dirs, dir ∈ more) :
    Found fs s vendor more packages := by
  intro key p hp
  obtain ⟨hkey, dir, hdir, hof⟩ := h key p hp
  exact ⟨hkey, dir, hsub dir hdir, hof⟩

theorem scanDirectory_found {dirs : List Path} {found found' : PackageSet} {dir : Path}
    (h : Found fs s vendor dirs found) (hscan : scanDirectory fs s vendor found dir = .ok found') :
    Found fs s vendor (dirs ++ [dir]) found' := by
  have hold : Found fs s vendor (dirs ++ [dir]) found :=
    h.mono fun d hd => List.mem_append_left _ hd
  unfold scanDirectory at hscan
  split at hscan
  · cases hscan
  · rename_i importPath hpath
    split at hscan
    · cases hscan
      exact hold
    · rename_i hne
      split at hscan
      · cases hscan
      · cases hscan
        exact hold
      · rename_i contents hcontents
        cases hscan
        intro key p hp
        rw [NameMap.find?_put] at hp
        split at hp
        · rename_i hkey
          cases hp
          exact ⟨hkey.symm, dir, by simp, hpath, hne, hcontents⟩
        · exact hold key p hp

/-- Directories that are scanned one after the other add no packages but their own. -/
theorem scanFrom_found {seen dirs : List Path} {found found' : PackageSet}
    (h : Found fs s vendor seen found) (hscan : scanFrom fs s vendor found dirs = .ok found') :
    Found fs s vendor (seen ++ dirs) found' := by
  induction dirs generalizing seen found with
  | nil =>
    cases hscan
    rwa [List.append_nil]
  | cons dir rest ih =>
    rw [scanFrom] at hscan
    split at hscan
    · cases hscan
    · rename_i next hnext
      have := ih (scanDirectory_found h hnext) hscan
      rwa [List.append_assoc, List.singleton_append] at this

/-- Each package that a scan finds is that of a directory at or below the vendor directory. -/
theorem found_of_scan {found : Scan} (h : scan fs s vendor = .ok found) :
    ∃ dirs, fs.directories s vendor = .ok dirs ∧ Found fs s vendor dirs found.packages := by
  unfold scan at h
  split at h
  · cases h
  · rename_i dirs hdirs
    cases hscan : scanFrom fs s vendor .empty dirs with
    | error fault =>
      rw [hscan] at h
      cases h
    | ok packages =>
      rw [hscan] at h
      cases h
      exact ⟨dirs, hdirs, scanFrom_found found_empty hscan⟩

theorem discover_eq_ok_iff_scan {packages : PackageSet} :
    discover fs s vendor = .ok packages ↔
      checkVendor fs s vendor = .ok () ∧
        ∃ found, scan fs s vendor = .ok found ∧ found.packages = packages := by
  unfold discover
  cases checkVendor fs s vendor with
  | error fault => simp
  | ok _ => cases scan fs s vendor <;> simp [Except.map]

/-- Packages cannot be told for the fault of the vendor directory, or else for that of the scan. -/
theorem discover_eq_error_iff {fault : DiscoveryFault} :
    discover fs s vendor = .error fault ↔
      checkVendor fs s vendor = .error fault ∨
        checkVendor fs s vendor = .ok () ∧ scan fs s vendor = .error fault := by
  unfold discover
  cases checkVendor fs s vendor with
  | error fault => simp
  | ok _ => cases scan fs s vendor <;> simp [Except.map]

theorem exists_scan_of_discover {packages : PackageSet}
    (h : discover fs s vendor = .ok packages) :
    ∃ found, scan fs s vendor = .ok found ∧ found.packages = packages :=
  (discover_eq_ok_iff_scan.1 h).2

/-- Each package discovered is that of a directory at or below the vendor directory. -/
theorem found_of_discover {packages : PackageSet} (h : discover fs s vendor = .ok packages) :
    ∃ dirs, fs.directories s vendor = .ok dirs ∧ Found fs s vendor dirs packages := by
  obtain ⟨found, hscan, rfl⟩ := exists_scan_of_discover h
  exact found_of_scan hscan

end

namespace FlatStore

theorem findAt?_of_mem_entries {s : FlatStore} {e : FlatEntry} (h : e ∈ s.entries) :
    s.findAt? e.path.components = some e.node := by
  rw [findAt?, find?_key_of_mem s.distinct h]
  rfl

end FlatStore

end VendorBuild
