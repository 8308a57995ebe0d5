import VendorBuild.Names.Map
import VendorBuild.Text.Pieces

/-!
# Packages

A package of the vendored tree is known by its import path, which is also where it lies below the
vendor directory.

Results:
* `Package.targetName_of_name`: a declared name is the name of the rule.
-/

namespace VendorBuild

/-- A package and what it imports. -/
structure Package where
  importPath : String
  /-- The name that its sources declare. -/
  name : String
  imports : NameSet

/-- The packages of a tree by import path. -/
abbrev PackageSet := NameMap Package

/-- The part of a path behind the last slash. -/
def lastSegment (path : String) : String := (pieces '/' path).getLastD path

namespace Package

/-- The name of the rule that builds the package: its declared name, or without one the last segment
    of its import path. -/
def targetName (p : Package) : String := if p.name = "" then lastSegment p.importPath else p.name

theorem targetName_of_name {p : Package} (h : p.name ≠ "") : p.targetName = p.name := if_neg h

end Package

end VendorBuild
