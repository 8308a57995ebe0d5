import VendorBuild.Proofs.Places
import VendorBuild.Storage.Flat

/-!
# Where build files are placed

The import path of a directory leads back to it from the vendor directory, as long as the names on
the way are texts: then the build file of a package lies in the directory where the package was
found, and no other directory has its import path. A name that is no text reads as one with
replacement characters, and the build file goes where a directory of that name would be. Logs name a
build file by a path of its own, which is spelled out and not joined step by step. Seen from the
root that path leads to the build file, too, however the import path is spelled: what adds no step
to the one adds none to the other.

Results:
* `exists_importPathOf?`: the import path of a directory, and where its build file lies.
* `components_displayPath`: where the path leads by which logs name a build file.
* `buildFiles_are_placed`: when a build file is where its package is, and that it is where the logs
  say.
* `buildFiles_are_misplaced`: two directories whose names are no texts.
-/

namespace VendorBuild

open RawText (slash)

namespace Path

theorem parent?_of_components {p : Path} {cs : List Component} {name : RawText}
    (h : p.components = cs ++ [.name name]) : p.parent? = some cs ∧ p.fileName? = some name := by
  simp [parent?, fileName?, h]

theorem components_slash_append_slash (p : Path) {name : RawText} (hne : name ≠ "")
    (hn : slash ∉ name.bytes) (more : RawText) :
    (p / name).raw ≠ "" ∧
      (p / (name ++ "/" ++ more : RawText)).components = (p / name).components ++ steps more := by
  rw [slash_def, slash_def]
  by_cases hp : p.raw = ""
  · rw [join_of_raw_eq_empty hp, join_of_raw_eq_empty hp]
    refine ⟨hne, ?_⟩
    rw [components, start_append_slash, start_slash_end hne, components, List.append_assoc, ← steps,
      ← steps, steps_append_slash]
  · have hlong : (⟨name ++ "/" ++ more⟩ : Path).isAbsolute = false := by
      rw [RawText.append_assoc, isAbsolute_append hne, isAbsolute_of_notMem hn]
    obtain ⟨hraw, -, hcomp⟩ := components_join_of_ne_empty hp (isAbsolute_of_notMem hn)
    obtain ⟨-, -, hcomp'⟩ := components_join_of_ne_empty hp hlong
    refine ⟨hraw, ?_⟩
    rw [hcomp', hcomp, steps_append_slash, List.append_assoc]

end Path

/-- Every directory below the vendor directory has an import path. The build file of that import
path lies in the directory exactly if the names on the way are texts. -/
theorem exists_importPathOf? {vendor dir : Path} {name : String} {steps : List Component}
    (hv : vendor.isAbsolute = true) (hn : IsPlainName name)
    (hdir : dir.components = vendor.components ++ steps) (hne : steps ≠ []) :
    ∃ importPath, importPathOf? vendor dir = some importPath ∧ importPath ≠ "" ∧
      (buildPath vendor importPath name).fileName? = some ↑name ∧
      ((buildPath vendor importPath name).parent? = some dir.components ↔
        ∀ c ∈ steps, c.IsText) := by
  have hsteps := isStep_of_below hv hdir
  have hspelled := steps_spelledPath hsteps
  obtain ⟨-, hcomp⟩ := components_buildPath hv hn (spelledPath steps)
  obtain ⟨hparent, hlast⟩ := Path.parent?_of_components hcomp
  refine ⟨spelledPath steps, importPathOf?_of_components hdir,
    mt (spelledPath_eq_empty_iff hsteps).1 hne, hlast, ?_⟩
  rw [hparent, hspelled, hdir, Option.some.injEq, List.append_cancel_left_eq,
    Component.map_reading_eq_self_iff]

/-- The path by which logs name a build file leads from the root to where the build file lies. -/
theorem components_displayPath {settings : Settings} (h : settings.check = .ok ()) (b : Build) :
    (settings.root / (b.file settings).displayPath).components =
      (b.file settings).path.components := by
  obtain ⟨hvendor, hname, -, -⟩ := Settings.check_eq_ok_iff.1 h
  obtain ⟨hne, hslash, -⟩ := isSingleSegment_iff.1 hvendor
  obtain ⟨-, hfile, -⟩ := isSingleSegment_iff.1 hname
  rw [← RawText.slash_mem_ofString_iff] at hslash hfile
  obtain ⟨hdir, hdisplay⟩ := Path.components_slash_append_slash settings.root
    (mt RawText.ofString_inj.1 hne) hslash (b.package.importPath ++ "/" ++ settings.buildFileName)
  obtain ⟨-, hbuild⟩ := components_buildPath_of_ne_empty hdir hfile b.package.importPath
  have hshown : ((b.file settings).displayPath : RawText) = settings.vendorName ++ "/" ++
      (b.package.importPath ++ "/" ++ settings.buildFileName) := by
    simp only [Build.file, RawText.ofString_append, RawText.append_assoc]
  rw [Path.slash_ofString, hshown, hdisplay, Build.file, Settings.vendorDir, Path.slash_ofString,
    hbuild, Path.steps_append_slash, List.append_assoc]

/-- Every directory below the vendor directory has an import path, and the build file of that import
path has its own name and lies in the directory exactly if the names on the way are texts. Two
directories have one import path exactly if their names read the same, so different ones have
different import paths where names are texts. And for whatever import path a build file is made, the
path by which logs name it leads from the root to where it lies. -/
theorem buildFiles_are_placed (settings : Settings) (b : Build) :
    (∀ (vendor : Path) (name : String), vendor.isAbsolute = true → IsPlainName name →
      ∀ dir steps, dir.components = vendor.components ++ steps → steps ≠ [] →
        (∃ importPath, importPathOf? vendor dir = some importPath ∧ importPath ≠ "" ∧
          (buildPath vendor importPath name).fileName? = some ↑name ∧
          ((buildPath vendor importPath name).parent? = some dir.components ↔
            ∀ c ∈ steps, c.IsText)) ∧
        ∀ dir' steps', dir'.components = vendor.components ++ steps' →
          (importPathOf? vendor dir = importPathOf? vendor dir' ↔
            steps.map Component.reading = steps'.map Component.reading) ∧
          ((∀ c ∈ steps ++ steps', c.IsText) →
            importPathOf? vendor dir = importPathOf? vendor dir' →
              dir.components = dir'.components)) ∧
    (settings.check = .ok () →
      (settings.root / (b.file settings).displayPath).components =
        (b.file settings).path.components) := by
  refine ⟨fun vendor name hv hn dir steps hdir hne => ⟨exists_importPathOf? hv hn hdir hne, ?_⟩,
    fun hcheck => components_displayPath hcheck b⟩
  intro dir' steps' hdir'
  have hsame : importPathOf? vendor dir = importPathOf? vendor dir' ↔
      steps.map Component.reading = steps'.map Component.reading := by
    rw [importPathOf?_of_components hdir, importPathOf?_of_components hdir', Option.some.injEq,
      spelledPath_eq_iff (isStep_of_below hv hdir) (isStep_of_below hv hdir')]
  refine ⟨hsame, fun htext hpath => ?_⟩
  obtain ⟨hsteps, hsteps'⟩ := List.forall_mem_append.1 htext
  have hread := hsame.1 hpath
  rw [Component.map_reading_eq_self_iff.2 hsteps, Component.map_reading_eq_self_iff.2 hsteps']
    at hread
  rw [hdir, hdir', hread]

/-- Settings without a root, whose vendor directory is a dot. -/
def dotVendor : Settings := { root := ⟨""⟩, vendorName := "." }

/-- A build with an import path that is full of slashes and dots. -/
def dottedBuild : Build := ⟨⟨"/a//./../b/", "b", .empty⟩, []⟩

theorem buildFiles_are_placed_dotted :
    (∃ importPath, importPathOf? ⟨"/r//vendor/"⟩ ⟨"/r/vendor/./a/../b"⟩ = some importPath ∧
        importPath ≠ "" ∧
        (buildPath ⟨"/r//vendor/"⟩ importPath "BUCK").parent? =
          some (Path.components ⟨"/r/vendor/./a/../b"⟩) ∧
        (buildPath ⟨"/r//vendor/"⟩ importPath "BUCK").fileName? = some ↑"BUCK") ∧
      Path.components ⟨"/r/vendor/a"⟩ = Path.components ⟨"/r/vendor//a/."⟩ ∧
      dotVendor.check = .ok () ∧
      (dotVendor.root / (dottedBuild.file dotVendor).displayPath).components =
        (dottedBuild.file dotVendor).path.components := by
  obtain ⟨hplaces, hdisplay⟩ := buildFiles_are_placed dotVendor dottedBuild
  have hv : (⟨"/r//vendor/"⟩ : Path).isAbsolute = true := by decide
  have hn : IsPlainName "BUCK" := by decide
  obtain ⟨⟨importPath, hpath, hne, hname, hparent⟩, -⟩ := hplaces ⟨"/r//vendor/"⟩ "BUCK" hv hn
    ⟨"/r/vendor/./a/../b"⟩ [.name "a", .up, .name "b"] (by decide) (by decide)
  obtain ⟨-, hsame⟩ := hplaces ⟨"/r//vendor/"⟩ "BUCK" hv hn ⟨"/r/vendor/a"⟩ [.name "a"]
    (by decide) (by decide)
  obtain ⟨-, hsame⟩ := hsame ⟨"/r/vendor//a/."⟩ [.name "a"] (by decide)
  have hcheck : dotVendor.check = .ok () := by decide
  exact ⟨⟨importPath, hpath, hne, hparent.2 (by decide +kernel), hname⟩,
    hsame (by decide +kernel) (by decide +kernel), hcheck, hdisplay hcheck⟩

/-- A directory with one byte for a name, below a vendor directory. -/
def byteDir (b : UInt8) : Path := ⟨("/r/vendor/" : RawText) ++ ⟨[b]⟩⟩

/-- Two directories of one store whose names are no texts have one import path, and its build file
lies in neither of them. -/
theorem buildFiles_are_misplaced :
    (((FlatStore.empty ⟨"/r"⟩).addDirectory (byteDir 0xFF)).addDirectory
        (byteDir 0xFE)).directories ⟨"/r/vendor"⟩ =
      .ok [⟨"/r/vendor"⟩, byteDir 0xFF, byteDir 0xFE] ∧
    (byteDir 0xFF).components ≠ (byteDir 0xFE).components ∧
    importPathOf? ⟨"/r/vendor"⟩ (byteDir 0xFF) = some "\uFFFD" ∧
    importPathOf? ⟨"/r/vendor"⟩ (byteDir 0xFE) = some "\uFFFD" ∧
    (buildPath ⟨"/r/vendor"⟩ "\uFFFD" "BUCK").parent? ≠ some (byteDir 0xFF).components ∧
    (buildPath ⟨"/r/vendor"⟩ "\uFFFD" "BUCK").parent? ≠ some (byteDir 0xFE).components := by
  refine ⟨?_, ?_, ?_, ?_, ?_, ?_⟩ <;> decide +kernel

end VendorBuild
