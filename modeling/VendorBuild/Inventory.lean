import VendorBuild.Settings
import VendorBuild.Storage.Basic
import VendorBuild.Text.Utf8

/-!
# Inventory of build files

The build files that lie below a vendor directory, whoever wrote them.
-/

namespace VendorBuild

section

variable {σ : Type} (fs : Storage σ) (s : σ)

/-- The files of a given name in a directory, each with its text if it is text. -/
def buildFilesIn (fileName : String) (dir : Path) :
    Except StorageFault (List (Path × Option String)) := do
  let entries ← fs.entries s dir
  (entries.filter fun e => e.type = .file && e.name = fileName).mapM fun e => do
    return (e.path, Utf8.decode? (← fs.read s e.path))

/-- The build files below the vendor directory. -/
def inventory (settings : Settings) : Except StorageFault (List (Path × Option String)) := do
  let dirs ← fs.directories s settings.vendorDir
  return (← dirs.mapM (buildFilesIn fs s settings.buildFileName)).flatten

end

end VendorBuild
