import VendorBuild.BuildFile
import VendorBuild.Proofs.Planning

/-!
# Packages added to a plan

The labels of a package name rules of all packages, so a package that is added could change the
build of any other. It adds one label, its own, to the packages that import it. Labels are texts,
and the new one may be spelled like one that is there: then there is one label as before. No label
goes away, and what does not import the new package keeps its build file.

Results:
* `NameMap.exists_entries_put`: an entry under a new key stands between the entries that were there.
* `PackageSet.find?_targetNames_put`: the rule names after a package has been added.
* `plan_put_gains`: what a package that is added changes in a plan.
-/

namespace VendorBuild

namespace NameMap

variable {α : Type}

theorem exists_putSorted {entries : List (String × α)} {key : String}
    (h : ∀ e ∈ entries, e.1 ≠ key) (value : α) :
    ∃ front back, entries = front ++ back ∧
      putSorted key value entries = front ++ (key, value) :: back := by
  induction entries with
  | nil => exact ⟨[], [], rfl, rfl⟩
  | cons e rest ih =>
    obtain ⟨he, hrest⟩ := List.forall_mem_cons.1 h
    obtain ⟨front, back, hsplit, hput⟩ := ih hrest
    by_cases hlt : key < e.1
    · exact ⟨[], e :: rest, rfl, by rw [putSorted, if_pos hlt, List.nil_append]⟩
    · refine ⟨e :: front, back, by rw [hsplit, List.cons_append], ?_⟩
      rw [putSorted, if_neg hlt, if_neg he.symm, hput, List.cons_append]

/-- An entry under a new key stands between the entries that were there. -/
theorem exists_entries_put {m : NameMap α} {key : String} (h : m.contains key = false) (value : α) :
    ∃ front back, m.entries = front ++ back ∧
      (m.put key value).entries = front ++ (key, value) :: back := by
  refine exists_putSorted (fun e he hkey => ?_) value
  have hfind : m.find? key = some e.2 := mem_entries_iff.1 (hkey ▸ he)
  rw [contains, hfind] at h
  cases h

end NameMap

variable {packages : PackageSet} {key : String} {p : Package}

theorem PackageSet.find?_targetNames_put {i : String} :
    (targetNames (packages.put key p)).find? i =
      if key = i then some p.targetName else packages.targetNames.find? i := by
  rw [targetNames, NameMap.find?_map, NameMap.find?_put]
  split
  · rfl
  · exact NameMap.find?_map.symm

/-- A package that is added adds its label to those of the packages that import it. -/
theorem Package.mem_labels_put (h : packages.contains key = false) {cell text : String}
    {q : Package} :
    text ∈ q.labels (PackageSet.targetNames (packages.put key p)) cell ↔
      text ∈ q.labels packages.targetNames cell ∨
        key ∈ q.imports ∧ text = label cell key p.targetName := by
  have hnone : packages.targetNames.find? key = none := by
    rw [PackageSet.targetNames, NameMap.find?_map, Option.map_eq_none_iff]
    exact Option.not_isSome_iff_eq_none.1 (Bool.eq_false_iff.1 h)
  simp only [mem_labels, PackageSet.find?_targetNames_put]
  constructor
  · rintro ⟨i, hi, name, hname, htext⟩
    split_ifs at hname with hkey
    · cases hname
      rw [hkey]
      exact .inr ⟨hi, htext⟩
    · exact .inl ⟨i, hi, name, hname, htext⟩
  · rintro (⟨i, hi, name, hname, htext⟩ | ⟨hi, htext⟩)
    · have hkey : key ≠ i := by
        rintro rfl
        rw [hnone] at hname
        cases hname
      exact ⟨i, hi, name, by rw [if_neg hkey, hname], htext⟩
    · exact ⟨key, hi, p.targetName, if_pos rfl, htext⟩

/-- A package that is added changes no labels of what does not import it. -/
theorem Package.labels_put (h : packages.contains key = false) {cell : String} {q : Package}
    (himport : key ∉ q.imports) :
    q.labels (PackageSet.targetNames (packages.put key p)) cell =
      q.labels packages.targetNames cell := by
  refine NameSet.eq_of_pairwise_of_mem (NameSet.increasing _) (NameSet.increasing _) fun text => ?_
  simp only [mem_labels_put h, himport, false_and, or_false]

/-- The build of an entry in the plan of all packages. -/
def PackageSet.build (packages : PackageSet) (cell : String) (e : String × Package) : Build :=
  ⟨e.2, e.2.labels packages.targetNames cell⟩

theorem plan_eq_map_build (packages : PackageSet) (cell : String) :
    plan packages cell = packages.entries.map (packages.build cell) := by
  rw [plan, NameMap.values, List.map_map]
  rfl

/-- What a package that is added under a key changes in the build of another: the label of the new
rule is added if the other package imports the key, and in the build file nothing changes if not. -/
structure Gains (key : String) (p : Package) (cell : String) (old new : Build) : Prop where
  package : new.package = old.package
  increasing : new.labels.Pairwise fun d e => Utf8.encode d < Utf8.encode e
  mem_labels : ∀ d, d ∈ new.labels ↔ d ∈ old.labels ∨
    key ∈ old.package.imports ∧ d = "//" ++ cell ++ "/" ++ key ++ ":" ++ p.targetName
  file : key ∉ old.package.imports → ∀ settings, new.file settings = old.file settings

theorem gains_build (h : packages.contains key = false) (cell : String) (e : String × Package) :
    Gains key p cell (packages.build cell e) (PackageSet.build (packages.put key p) cell e) where
  package := rfl
  increasing := (NameSet.increasing _).imp Utf8.encode_lt_encode
  mem_labels d := Package.mem_labels_put h
  file himport settings := by
    have hlabels : e.2.labels (PackageSet.targetNames (packages.put key p)) cell =
        e.2.labels packages.targetNames cell := Package.labels_put h himport
    rw [PackageSet.build, hlabels]
    rfl

/-- A package that is added under a new key has its build in a plan between the builds that were
there, and each of these is changed at most by the label of the new package. -/
theorem plan_put_gains (h : packages.contains key = false) (p : Package) (cell : String) :
    ∃ (front back : List (String × Package)) (before after : List Build) (labels : List String),
      packages.entries = front ++ back ∧
      (packages.put key p).entries = front ++ (key, p) :: back ∧
      plan (packages.put key p) cell = before ++ ⟨p, labels⟩ :: after ∧
      before.length = front.length ∧
      List.Forall₂ (Gains key p cell) (plan packages cell) (before ++ after) := by
  obtain ⟨front, back, hentries, hput⟩ := NameMap.exists_entries_put h p
  refine ⟨front, back, front.map (PackageSet.build (packages.put key p) cell),
    back.map (PackageSet.build (packages.put key p) cell),
    p.labels (PackageSet.targetNames (packages.put key p)) cell, hentries, hput, ?_,
    List.length_map _, ?_⟩
  · rw [plan_eq_map_build, hput, List.map_append, List.map_cons]
    rfl
  · rw [← List.map_append, ← hentries, plan_eq_map_build, List.forall₂_map_left_iff,
      List.forall₂_map_right_iff, List.forall₂_same]
    exact fun e _ => gains_build h cell e

/-- A package that imports two others, of which the first has a colon in the name of its rule. -/
def twoImports : PackageSet :=
  .ofList [("a", ⟨"a", "x:y", .empty⟩), ("b", ⟨"b", "b", .ofList ["a", "a:x"]⟩)]

theorem plan_put_gains_twoImports :
    twoImports.contains "a:x" = false ∧
      ∃ before after labels,
        plan (twoImports.put "a:x" ⟨"a:x", "y", .empty⟩) "v" =
          before ++ ⟨⟨"a:x", "y", .empty⟩, labels⟩ :: after ∧
        List.Forall₂ (Gains "a:x" ⟨"a:x", "y", .empty⟩ "v") (plan twoImports "v")
          (before ++ after) ∧
        (plan (twoImports.put "a:x" ⟨"a:x", "y", .empty⟩) "v").map (·.labels) =
          [[], [], ["//v/a:x:y"]] := by
  have h : twoImports.contains "a:x" = false := by decide
  obtain ⟨-, -, before, after, labels, -, -, hplan, -, hgains⟩ :=
    plan_put_gains h ⟨"a:x", "y", .empty⟩ "v"
  exact ⟨h, before, after, labels, hplan, hgains, by decide⟩

end VendorBuild
