import VendorBuild.Label
import VendorBuild.Rule.Basic

/-!
# Plans

All packages are known before the first label is made, so a plan is a function of the packages and
of nothing else. It lists one build for each package in the order of the import paths.

Results:
* `length_plan`: a plan has as many builds as there are packages.
-/

namespace VendorBuild

/-- A package and the labels of what it depends on. -/
structure Build where
  package : Package
  labels : List String

/-- The rule of a build. -/
def Build.rule (b : Build) : Rule := ⟨b.package.targetName, b.package.importPath, b.labels⟩

/-- The builds of all packages in the order of their keys. -/
def plan (packages : PackageSet) (cell : String) : List Build :=
  packages.values.map fun p => ⟨p, p.labels packages.targetNames cell⟩

theorem length_plan (packages : PackageSet) (cell : String) :
    (plan packages cell).length = packages.size := by
  simp [plan, NameMap.values, NameMap.size]

end VendorBuild
