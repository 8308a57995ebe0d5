import VendorBuild.Package.Basic

/-!
# Dependency labels

A label names the rule of a vendored package. The imports of a package that the tree does not hold,
such as those of the standard library, have no label.

Results:
* `Package.mem_labels`: the labels of a package are those of its imports that the tree holds.
-/

namespace VendorBuild

/-- The rule names of all packages by import path. -/
def PackageSet.targetNames (packages : PackageSet) : NameMap String :=
  packages.map Package.targetName

/-- The label of the rule `name` of the package at `importPath`, below the cell `cell`. -/
def label (cell importPath name : String) : String :=
  "//" ++ cell ++ "/" ++ importPath ++ ":" ++ name

/-- The label of an import, if the tree holds it. -/
def importLabel? (targets : NameMap String) (cell importPath : String) : Option String :=
  (targets.find? importPath).map (label cell importPath)

/-- The labels of the packages that `p` imports, in increasing order and each once. -/
def Package.labels (targets : NameMap String) (cell : String) (p : Package) : List String :=
  (NameSet.ofList (p.imports.toList.filterMap (importLabel? targets cell))).toList

/-- Labels as a log shows them. -/
def showLabels (labels : List String) : String := "[" ++ String.intercalate "," labels ++ "]"

/-- The labels of a package are those of its imports that the tree holds. -/
theorem Package.mem_labels {targets : NameMap String} {cell text : String} {p : Package} :
    text ∈ p.labels targets cell ↔
      ∃ i ∈ p.imports, ∃ name, targets.find? i = some name ∧ text = label cell i name := by
  unfold labels
  rw [← NameSet.mem_def, NameSet.mem_ofList, List.mem_filterMap]
  simp only [importLabel?, Option.map_eq_some_iff, NameSet.mem_def]
  grind

end VendorBuild
