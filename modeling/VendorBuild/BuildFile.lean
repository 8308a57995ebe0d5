import VendorBuild.Plan
import VendorBuild.Settings
import VendorBuild.Storage.Basic
import VendorBuild.Text.Pieces

/-!
# Build files

The build file of a package lies in the directory of the package, which its import path leads to
from the vendor directory. Logs name it by a path that starts with the name of the vendor directory.

Results:
* `Build.write_eq_ok`: a build file that is written has the text of its rule.
-/

namespace VendorBuild

/-- A build file: where it lies, how logs name it, and its text. -/
structure BuildFile where
  path : Path
  displayPath : String
  text : String
deriving DecidableEq

/-- Where the build file of the package at an import path lies. -/
def buildPath (vendor : Path) (importPath fileName : String) : Path :=
  (pieces '/' importPath).foldl (· / ·) vendor / fileName

/-- The build file of a build. -/
def Build.file (settings : Settings) (b : Build) : BuildFile where
  path := buildPath settings.vendorDir b.package.importPath settings.buildFileName
  displayPath :=
    settings.vendorName ++ "/" ++ b.package.importPath ++ "/" ++ settings.buildFileName
  text := b.rule.render

/-- Writes the build file of a build, in the place of what it held before. -/
def Build.write {σ : Type} (fs : Storage σ) (settings : Settings) (b : Build) (s : σ) :
    Except StorageFault (BuildFile × σ) :=
  (fs.write s (b.file settings).path (b.file settings).text).map fun s => (b.file settings, s)

theorem Build.text_file (settings : Settings) (b : Build) :
    (b.file settings).text = b.rule.render := by
  simp only [file]

/-- A build file that is written has the text of its rule. -/
theorem Build.write_eq_ok {σ : Type} {fs : Storage σ} {settings : Settings} {b : Build} {s s' : σ}
    {file : BuildFile} (h : b.write fs settings s = .ok (file, s')) :
    file = b.file settings ∧ fs.write s file.path b.rule.render = .ok s' := by
  unfold write at h
  cases hw : fs.write s (b.file settings).path (b.file settings).text with
  | error fault => simp [hw, Except.map] at h
  | ok state =>
    simp only [hw, Except.map, Except.ok.injEq, Prod.mk.injEq] at h
    obtain ⟨hfile, hstate⟩ := h
    rw [← hfile, ← hstate, ← b.text_file settings]
    exact ⟨rfl, hw⟩

end VendorBuild
