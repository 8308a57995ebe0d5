import VendorBuild.Proofs.Declared
import VendorBuild.Proofs.Emission
import VendorBuild.Proofs.Lines
import Mathlib.Data.List.Nodup

/-!
# What labels stand for

A label is an import path and a rule name behind a fixed text, with a colon between them. The names
of packages hold no colon, so the last colon of a label is the one between the two, and the label
tells both again. What it stands for is a package found, and after a run that succeeds the build
file of that package defines the rule.

Results:
* `label_injective`: a label tells the import path and the rule name.
* `Package.length_labels`: a package has one label for each import that the tree holds.
* `run_labels_resolve`: the labels of a run stand for rules that it has written.
-/

namespace VendorBuild

/-! ## Labels of imports -/

/-- A label tells the import path and the rule name if rule names hold no colon. -/
theorem label_injective {cell a b m n : String} (hm : ':' ∉ m.toList) (hn : ':' ∉ n.toList)
    (h : label cell a m = label cell b n) : a = b ∧ m = n := by
  have hlist : a.toList ++ ':' :: m.toList = b.toList ++ ':' :: n.toList := by
    have := congrArg String.toList h
    simpa [label] using this
  rw [← String.toList_inj, ← String.toList_inj]
  -- one import path continues the other; what it continues it by would put a colon into a name
  rcases List.append_eq_append_iff.1 hlist with ⟨t, hb, ht⟩ | ⟨t, ha, ht⟩
  · cases t with
    | nil => exact ⟨by simpa using hb.symm, by simpa using ht⟩
    | cons c t =>
      have hmem : ':' ∈ m.toList := by
        rw [(List.cons.inj ht).2]
        simp
      exact absurd hmem hm
  · cases t with
    | nil => exact ⟨by simpa using ha, by simpa using ht.symm⟩
    | cons c t =>
      have hmem : ':' ∈ n.toList := by
        rw [(List.cons.inj ht).2]
        simp
      exact absurd hmem hn

namespace NameSet

theorem nodup (s : NameSet) : s.toList.Nodup := by
  apply s.increasing.imp
  intro x y hlt heq
  rw [heq] at hlt
  exact String.lt_irrefl y hlt

theorem length_ofList {names : List String} (h : names.Nodup) :
    (ofList names).toList.length = names.length := by
  apply List.Perm.length_eq
  rw [List.perm_ext_iff_of_nodup (nodup _) h]
  intro x
  rw [← mem_def, mem_ofList]

end NameSet

theorem Package.length_labels {targets : NameMap String}
    (h : ∀ key name, targets.find? key = some name → ':' ∉ name.toList) (cell : String)
    (p : Package) :
    (p.labels targets cell).length = (p.imports.toList.filter targets.contains).length := by
  have hnodup : (p.imports.toList.filterMap (importLabel? targets cell)).Nodup := by
    refine List.Nodup.filterMap ?_ p.imports.nodup
    intro i j text hi hj
    obtain ⟨m, hm, rfl⟩ := Option.map_eq_some_iff.1 hi
    obtain ⟨n, hn, hlabel⟩ := Option.map_eq_some_iff.1 hj
    exact (label_injective (h j n hn) (h i m hm) hlabel).1.symm
  rw [labels, NameSet.length_ofList hnodup, List.length_filterMap_eq_countP,
    List.countP_eq_length_filter]
  congr 2
  funext i
  rw [importLabel?, Option.isSome_map]
  rfl

/-! ## Labels of packages found -/

theorem PackageSet.find?_targetNames {packages : PackageSet} {i : String} :
    packages.targetNames.find? i = (packages.find? i).map Package.targetName :=
  NameMap.find?_map

theorem PackageSet.contains_targetNames (packages : PackageSet) :
    packages.targetNames.contains = packages.contains := by
  funext i
  rw [NameMap.contains, find?_targetNames, Option.isSome_map]
  rfl

section

variable {settings : Settings} {s : FlatStore} {packages : PackageSet}

/-- Whether a label is that of a package found. -/
def Denotes (settings : Settings) (packages : PackageSet) (text : String)
    (u : String × Package) : Prop :=
  u ∈ packages.entries ∧ text = "//" ++ settings.cell ++ "/" ++ u.1 ++ ":" ++ u.2.targetName

theorem colon_notMem_targetName (h : discover FlatStore.storage s settings.vendorDir = .ok packages)
    {key : String} {p : Package} (hp : packages.find? key = some p) :
    ':' ∉ p.targetName.toList := by
  have hsound := (isSound_of_discover h (NameMap.mem_entries_iff.2 hp)).2.2
  exact hsound.isName_targetName.notMem (by decide)

/-- A label is that of one package found at most. -/
theorem Denotes.unique (h : discover FlatStore.storage s settings.vendorDir = .ok packages)
    {text : String} {u v : String × Package} (hu : Denotes settings packages text u)
    (hv : Denotes settings packages text v) : u = v := by
  obtain ⟨humem, hutext⟩ := hu
  obtain ⟨hvmem, hvtext⟩ := hv
  have hufind : packages.find? u.1 = some u.2 := NameMap.mem_entries_iff.1 humem
  have hvfind : packages.find? v.1 = some v.2 := NameMap.mem_entries_iff.1 hvmem
  have hkey : u.1 = v.1 := (label_injective (colon_notMem_targetName h hufind)
    (colon_notMem_targetName h hvfind) (hutext.symm.trans hvtext)).1
  rw [hkey, hvfind] at hufind
  exact Prod.ext hkey (Option.some.inj hufind).symm

/-- The labels of a package are those of the packages found that it imports. -/
theorem mem_labels_iff_denotes {p : Package} {text : String} :
    text ∈ p.labels packages.targetNames settings.cell ↔
      ∃ u, Denotes settings packages text u ∧ u.1 ∈ p.imports := by
  rw [Package.mem_labels]
  constructor
  · rintro ⟨i, hi, name, hname, rfl⟩
    rw [PackageSet.find?_targetNames] at hname
    obtain ⟨u, hu, rfl⟩ := Option.map_eq_some_iff.1 hname
    exact ⟨(i, u), ⟨NameMap.mem_entries_iff.2 hu, rfl⟩, hi⟩
  · rintro ⟨u, ⟨hu, rfl⟩, hi⟩
    refine ⟨u.1, hi, u.2.targetName, ?_, rfl⟩
    rw [PackageSet.find?_targetNames, NameMap.mem_entries_iff.1 hu]
    rfl

/-- A package found has one label for each of its imports that is the import path of one. -/
theorem length_labels_of_discover
    (h : discover FlatStore.storage s settings.vendorDir = .ok packages) (p : Package) :
    (p.labels packages.targetNames settings.cell).length =
      (p.imports.toList.filter packages.contains).length := by
  rw [← PackageSet.contains_targetNames]
  apply Package.length_labels
  intro key name hkey
  rw [PackageSet.find?_targetNames] at hkey
  obtain ⟨u, hu, rfl⟩ := Option.map_eq_some_iff.1 hkey
  exact colon_notMem_targetName h hu

/-- The labels of a run that succeeds stand for rules that it has written: each is that of just one
package found, which is imported and is no stand-in for C code, and whose build file has the line
that names the rule. No import of a package found is without its label, and no two share one. -/
theorem run_labels_resolve {report : Report} (hroot : settings.root.isAbsolute = true)
    (hname : IsPlainName settings.buildFileName)
    (hrun : (run FlatStore.storage settings s).result = .ok report) :
    ∃ packages, discover FlatStore.storage s settings.vendorDir = .ok packages ∧
      report = packages.entries.map (reportedFile settings packages) ∧
      ∀ e ∈ packages.entries,
        (∀ d ∈ (reportedFile settings packages e).labels, ∃ u, Denotes settings packages d u ∧
          (∀ v, Denotes settings packages d v → v = u) ∧
          u.1 ∈ e.2.imports ∧ u.1 ≠ "C" ∧
          ∃ text, (run FlatStore.storage settings s).state.findAt? (buildPlace settings u.1) =
              some (.file (Utf8.encode text)) ∧
            "    name = " ++ Quoted.quote u.2.targetName ++ "," ∈ textLines text) ∧
        (∀ u ∈ packages.entries, u.1 ∈ e.2.imports →
          label settings.cell u.1 u.2.targetName ∈ (reportedFile settings packages e).labels) ∧
        (reportedFile settings packages e).labels.length =
          (e.2.imports.toList.filter packages.contains).length := by
  obtain ⟨packages, hfound, builds, hreport⟩ := complete_of_run_ok hroot hname hrun
  refine ⟨packages, hfound, hreport, fun e he => ⟨fun d hd => ?_, fun u hu himport => ?_, ?_⟩⟩
  · obtain ⟨u, hu, himport⟩ := mem_labels_iff_denotes.1 hd
    obtain ⟨-, hforeign⟩ := (isSound_of_discover hfound he).2.2.imports u.1 himport
    have hwritten := builds.written u hu.1
    have hline := Rule.name_mem_textLines (plannedBuild settings packages u.2).rule
    exact ⟨u, hu, fun v hv => hv.unique hfound hu, himport, hforeign, _, hwritten, hline⟩
  · exact mem_labels_iff_denotes.2 ⟨u, ⟨hu, rfl⟩, himport⟩
  · exact length_labels_of_discover hfound e.2

theorem twoPackages_labels :
    ∃ packages, discover FlatStore.storage twoPackages ⟨"/r/vendor"⟩ = .ok packages ∧
      [⟨"vendor/a/BUCK", ["//vendor/b:b"]⟩, ⟨"vendor/b/BUCK", []⟩] =
        packages.entries.map (reportedFile { root := ⟨"/r"⟩ } packages) ∧
      ∀ e ∈ packages.entries, ∀ d ∈ (reportedFile { root := ⟨"/r"⟩ } packages e).labels,
        ∃ u, Denotes { root := ⟨"/r"⟩ } packages d u ∧ u.1 ∈ e.2.imports ∧ u.1 ≠ "C" := by
  obtain ⟨packages, hfound, hreport, hlabels⟩ :=
    run_labels_resolve (by decide) isPlainName_default run_twoPackages
  refine ⟨packages, hfound, hreport, fun e he d hd => ?_⟩
  obtain ⟨u, hu, -, himport, hforeign, -⟩ := (hlabels e he).1 d hd
  exact ⟨u, hu, himport, hforeign⟩

end

end VendorBuild
