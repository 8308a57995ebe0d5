import VendorBuild.Package.Directory

/-!
# Discovery of packages

Every directory below the vendor directory that holds library sources is a package. Its import path
is what the path reads as that leads to it from the vendor directory. Two directories whose paths
read the same have one import path, and the package of the one that is listed last stays. Discovery
only reads, and stops at the first directory that has a fault.
-/

namespace VendorBuild

/-- Why the packages of a tree cannot be told. -/
inductive DiscoveryFault where
  | vendorMissing (dir : Path)
  | vendorNotDirectory (dir : Path)
  | storage (fault : StorageFault)
  /-- A directory that is listed below the vendor directory and does not lie there. -/
  | outside (dir vendor : Path)
  /-- The directory of the given import path. -/
  | inPackage (importPath : String) (fault : DirectoryFault)
deriving DecidableEq

/-- What is said of a tree whose packages cannot be told. -/
def DiscoveryFault.message : DiscoveryFault → String
  | vendorMissing dir => "Vendor directory does not exist: " ++ dir.shown
  | vendorNotDirectory dir => "Vendor path is not a directory: " ++ dir.shown
  | storage fault => fault.message
  | outside dir vendor =>
    dir.shown ++ " is not inside vendor directory " ++ vendor.shown ++ ": prefix not found"
  | inPackage importPath fault => "parse " ++ importPath ++ ": " ++ fault.message

/-- What the path reads as that leads from the vendor directory to a directory, step by step. -/
def importPathOf? (vendor dir : Path) : Option String :=
  (Path.stepsFrom? vendor dir).map fun steps => String.intercalate "/" (steps.map Component.text)

/-- What a scan has found. -/
structure Scan where
  /-- How many directories were visited. -/
  directories : Nat
  packages : PackageSet

section

variable {σ : Type} (fs : Storage σ) (s : σ) (vendor : Path)

/-- Adds the package of a directory, if it has one. The vendor directory itself is no package. -/
def scanDirectory (found : PackageSet) (dir : Path) : Except DiscoveryFault PackageSet :=
  match importPathOf? vendor dir with
  | none => .error (.outside dir vendor)
  | some importPath =>
    if importPath = "" then .ok found
    else match directoryContents? fs s dir with
      | .error fault => .error (.inPackage importPath fault)
      | .ok none => .ok found
      | .ok (some contents) =>
        .ok (found.put importPath ⟨importPath, contents.name, contents.imports⟩)

/-- Adds the packages of directories, one after the other. -/
def scanFrom (found : PackageSet) : List Path → Except DiscoveryFault PackageSet
  | [] => .ok found
  | dir :: rest =>
    match scanDirectory fs s vendor found dir with
    | .error fault => .error fault
    | .ok found => scanFrom found rest

/-- Checks that there is a vendor directory. -/
def checkVendor : Except DiscoveryFault Unit :=
  if !fs.contains s vendor then .error (.vendorMissing vendor)
  else if !fs.isDirectory s vendor then .error (.vendorNotDirectory vendor)
  else .ok ()

/-- Scans all directories at and below the vendor directory. -/
def scan : Except DiscoveryFault Scan :=
  match fs.directories s vendor with
  | .error fault => .error (.storage fault)
  | .ok dirs => (scanFrom fs s vendor .empty dirs).map fun packages => ⟨dirs.length, packages⟩

/-- The packages below the vendor directory. -/
def discover : Except DiscoveryFault PackageSet :=
  match checkVendor fs s vendor with
  | .error fault => .error fault
  | .ok () => (scan fs s vendor).map (·.packages)

end

end VendorBuild
