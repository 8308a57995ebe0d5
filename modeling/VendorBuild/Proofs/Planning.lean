import VendorBuild.Plan
import VendorBuild.Proofs.Utf8
import Mathlib.Data.List.Forall2

/-!
# What a plan holds

Nothing is asked here of the packages that a plan is made of: a package may be listed under a text
that is not its import path, and paths and names may hold anything. Labels that are spelled alike
are then one label, whichever imports they come from, and they are ordered by all their bytes,
whatever the order of the imports.

Results:
* `isTargetName_iff`: how the rule of a package is named.
* `plan_holds_builds`: the builds of a plan and their labels.
-/

namespace VendorBuild

/-! ## Names of rules -/

/-- How the rule of a package is named: as its sources declare, or else by the part of its import
path that no slash follows. -/
inductive IsTargetName (p : Package) : String → Prop
  | declared (hname : p.name ≠ "") : IsTargetName p p.name
  | whole (hname : p.name = "") (hslash : '/' ∉ p.importPath.toList) : IsTargetName p p.importPath
  | last {front name : String} (hname : p.name = "") (hslash : '/' ∉ name.toList)
      (hpath : p.importPath = front ++ "/" ++ name) : IsTargetName p name

theorem lastSegment_of_notMem {s : String} (h : '/' ∉ s.toList) : lastSegment s = s := by
  rw [lastSegment, pieces_of_notMem h]
  rfl

theorem lastSegment_append_slash (front : String) {name : String} (h : '/' ∉ name.toList) :
    lastSegment (front ++ "/" ++ name) = name := by
  rw [lastSegment, pieces_append rfl, pieces_of_notMem h, List.getLastD_concat]

/-- No slash is in the last segment, and one is in front of it unless it is all there is. -/
theorem lastSegment_spec (s : String) :
    '/' ∉ (lastSegment s).toList ∧
      (s = lastSegment s ∨ ∃ front, s = front ++ "/" ++ lastSegment s) := by
  obtain ⟨front, last, hpieces⟩ := (List.eq_nil_or_concat' _).resolve_left (pieces_ne_nil '/' s)
  have hlast : lastSegment s = last := by rw [lastSegment, hpieces, List.getLastD_concat]
  have hmem : last ∈ pieces '/' s := by simp [hpieces]
  have hjoin : String.intercalate "/" (pieces '/' s) = s := intercalate_pieces rfl s
  rw [hlast]
  refine ⟨notMem_of_mem_pieces hmem, ?_⟩
  rw [hpieces] at hjoin
  by_cases hfront : front = []
  · rw [hfront] at hjoin
    exact .inl (by simpa using hjoin.symm)
  · rw [String.intercalate_append_of_ne_nil hfront (by simp), String.intercalate_singleton] at hjoin
    exact .inr ⟨_, hjoin.symm⟩

theorem isTargetName_iff {p : Package} {name : String} :
    IsTargetName p name ↔ name = p.targetName := by
  constructor
  · intro h
    cases h with
    | declared hname => exact (Package.targetName_of_name hname).symm
    | whole hname hslash => rw [Package.targetName, if_pos hname, lastSegment_of_notMem hslash]
    | last hname hslash hpath =>
      rw [Package.targetName, if_pos hname, hpath, lastSegment_append_slash _ hslash]
  · rintro rfl
    unfold Package.targetName
    split
    · rename_i hname
      obtain ⟨hslash, hpath | ⟨front, hpath⟩⟩ := lastSegment_spec p.importPath
      · rw [← hpath] at hslash ⊢
        exact .whole hname hslash
      · exact .last hname hslash hpath
    · rename_i hname
      exact .declared hname

/-! ## Builds -/

/-- Whether a build is the one of the package under a key: it has that package, and one label for
each spelling of an import with its rule, in the order of their bytes. -/
structure IsBuildOf (packages : PackageSet) (cell key : String) (b : Build) : Prop where
  package : packages.find? key = some b.package
  increasing : b.labels.Pairwise fun d e => Utf8.encode d < Utf8.encode e
  mem_labels : ∀ d, d ∈ b.labels ↔
    ∃ i ∈ b.package.imports, ∃ p name, packages.find? i = some p ∧ IsTargetName p name ∧
      d = "//" ++ cell ++ "/" ++ i ++ ":" ++ name

theorem isBuildOf_labels {packages : PackageSet} {cell key : String} {p : Package}
    (h : packages.find? key = some p) :
    IsBuildOf packages cell key ⟨p, p.labels packages.targetNames cell⟩ := by
  refine ⟨h, (NameSet.increasing _).imp Utf8.encode_lt_encode, fun d => ?_⟩
  simp only [Package.mem_labels, PackageSet.targetNames, NameMap.find?_map, Option.map_eq_some_iff,
    isTargetName_iff, label]
  constructor
  · rintro ⟨i, hi, name, ⟨q, hq, rfl⟩, hd⟩
    exact ⟨i, hi, q, _, hq, rfl, hd⟩
  · rintro ⟨i, hi, q, name, hq, rfl, hd⟩
    exact ⟨i, hi, _, ⟨q, hq, rfl⟩, hd⟩

/-- A plan has the builds of the packages under all keys, in the order of the bytes of the keys. -/
theorem plan_holds_builds (packages : PackageSet) (cell : String) :
    ∃ keys : List String,
      keys.Pairwise (fun a b => Utf8.encode a < Utf8.encode b) ∧
      (∀ key, key ∈ keys ↔ packages.contains key = true) ∧
      List.Forall₂ (IsBuildOf packages cell) keys (plan packages cell) := by
  refine ⟨packages.entries.map (·.1), ?_, fun key => ?_, ?_⟩
  · exact List.pairwise_map.2 (packages.increasing.imp Utf8.encode_lt_encode)
  · simp only [NameMap.contains, Option.isSome_iff_exists, ← NameMap.mem_entries_iff, List.mem_map,
      Prod.exists, exists_and_right, exists_eq_right]
  · rw [plan, NameMap.values, List.map_map, List.forall₂_map_left_iff, List.forall₂_map_right_iff,
      List.forall₂_same]
    intro e he
    exact isBuildOf_labels (NameMap.mem_entries_iff.1 he)

/-- A colon in the name of a rule is spelled like the one in front of the name, so that two imports
have one label here. -/
example :
    (plan (.ofList [("a", ⟨"a", "x:y", .empty⟩), ("a:x", ⟨"w/y", "", .empty⟩),
        ("b", ⟨"b", "b", .ofList ["a", "a:x"]⟩)]) "v").map (·.labels) =
      [[], [], ["//v/a:x:y"]] := by
  decide

end VendorBuild
