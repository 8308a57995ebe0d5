import VendorBuild.Proofs.Faults
import VendorBuild.Proofs.Influence
import VendorBuild.Storage.Linked

/-!
# Trees that storage shows

Behind every storage is a tree of directories and files, and the operations answer as the tree says,
each in its own spelling of paths and its own order. What a discovery finds depends on nothing but
the tree: the packages of the directories with sources, provided that the sources in each directory
have headers and declare one name. So two storages that show the same tree find the same packages,
however different they are otherwise.

Results:
* `ShowsDirectory.directoryContents?_eq_ok_iff`: what a directory contains that is shown.
* `Shows.discover_eq_ok_iff`: what is found in a storage that shows a tree.
-/

namespace VendorBuild

/-! ## Trees of names -/

/-- A finite tree of directories and files, each with a name that is a text. -/
structure NameTree where
  /-- What is below the top, under the names that lead there. -/
  nodes : List (Location × FlatNode)
  /-- No two nodes are at the same place. -/
  distinct : nodes.Pairwise fun a b => a.1 ≠ b.1
  /-- Whatever is in the tree is in a directory of the tree. -/
  parents : ∀ e ∈ nodes, e.1.dropLast = [] ∨ (e.1.dropLast, .directory) ∈ nodes
  plain : ∀ e ∈ nodes, ∀ name ∈ e.1, IsPlainName name
  texts : ∀ e ∈ nodes, ∀ name ∈ e.1, (Component.name name).IsText

namespace NameTree

/-- What is at a place of the tree. The top is a directory. -/
def node? (T : NameTree) (place : Location) : Option FlatNode :=
  if place = [] then some .directory
  else (T.nodes.find? (·.1 = place)).map (·.2)

variable {T : NameTree} {place more : Location} {name : RawText} {node : FlatNode}

theorem node?_eq_some_iff (hne : place ≠ []) :
    T.node? place = some node ↔ (place, node) ∈ T.nodes := by
  rw [node?, if_neg hne, map_find?_eq_some_iff T.distinct]

theorem plain_of_node? (h : T.node? place = some node) : ∀ name ∈ place, IsPlainName name := by
  by_cases hne : place = []
  · rw [hne]
    exact List.forall_mem_nil _
  · exact T.plain _ ((node?_eq_some_iff hne).1 h)

theorem texts_of_node? (h : T.node? place = some node) :
    ∀ name ∈ place, (Component.name name).IsText := by
  by_cases hne : place = []
  · rw [hne]
    exact List.forall_mem_nil _
  · exact T.texts _ ((node?_eq_some_iff hne).1 h)

theorem node?_parent (h : T.node? (place ++ [name]) = some node) :
    T.node? place = some .directory := by
  by_cases hne : place = []
  · rw [hne]
    rfl
  · have hparent := T.parents _ ((node?_eq_some_iff (by simp)).1 h)
    rw [List.dropLast_concat] at hparent
    exact (node?_eq_some_iff hne).2 (hparent.resolve_left hne)

/-- On the way to anything in the tree there are only directories. -/
theorem node?_prefix (h : T.node? (place ++ more) = some node) (hne : more ≠ []) :
    T.node? place = some .directory := by
  induction more using List.reverseRecOn generalizing node with
  | nil => exact absurd rfl hne
  | append_singleton front name ih =>
    rw [← List.append_assoc] at h
    have hfront := node?_parent h
    by_cases hnil : front = []
    · rwa [hnil, List.append_nil] at hfront
    · exact ih hfront hnil

/-- On the way to a directory of the tree, itself included, there are only directories. -/
theorem directory_of_prefix {part : Location} (h : T.node? place = some .directory)
    (hpart : part <+: place) : T.node? part = some .directory := by
  obtain ⟨more, rfl⟩ := hpart
  by_cases hnil : more = []
  · rwa [hnil, List.append_nil] at h
  · exact node?_prefix h hnil

/-! ### Sources -/

/-- Whether a file with the given name and bytes is a source in the directory at a place. -/
def IsSource (T : NameTree) (place : Location) (name : RawText) (bytes : Bytes) : Prop :=
  isLibrarySource name.text = true ∧ T.node? (place ++ [name]) = some (.file bytes)

/-- Whether a header is that of a source in the directory at a place. -/
def HeaderAt (T : NameTree) (place : Location) (h : Header) : Prop :=
  ∃ name bytes, T.IsSource place name bytes ∧ sourceHeader bytes = .ok h

/-- Whether all sources in the directory at a place have headers. -/
def Readable (T : NameTree) (place : Location) : Prop :=
  ∀ name bytes, T.IsSource place name bytes → ∃ h, sourceHeader bytes = .ok h

/-- Whether some packages are those of the tree below the directory called `top`: one for each
directory with sources, which have headers that declare one name. -/
structure HasPackages (T : NameTree) (top : RawText) (packages : PackageSet) : Prop where
  directory : T.node? [top] = some .directory
  coherent : ∀ steps, steps ≠ [] → T.node? (top :: steps) = some .directory →
    T.Readable (top :: steps) ∧ SameName (T.HeaderAt (top :: steps))
  find?_iff : ∀ key p, packages.find? key = some p ↔
    p.importPath = key ∧ ∃ steps : Location, steps ≠ [] ∧ spelledPath (steps.map .name) = key ∧
      Contents.IsOf (T.HeaderAt (top :: steps)) ⟨p.name, p.imports⟩

theorem HasPackages.eq {top : RawText} {packages packages' : PackageSet}
    (h : T.HasPackages top packages) (h' : T.HasPackages top packages') : packages = packages' :=
  NameMap.ext_find? fun key => Option.ext fun p => by rw [h.find?_iff, h'.find?_iff]

end NameTree

/-! ## Paths of names -/

theorem isStep_map_name {names : Location} (h : ∀ name ∈ names, IsPlainName name) :
    ∀ c ∈ names.map Component.name, c.IsStep := by
  intro c hc
  obtain ⟨name, hname, rfl⟩ := List.mem_map.1 hc
  exact Component.isStep_name (h name hname)

theorem map_reading_map_name {names : Location}
    (h : ∀ name ∈ names, (Component.name name).IsText) :
    (names.map Component.name).map Component.reading = names.map Component.name := by
  refine Component.map_reading_eq_self_iff.2 fun c hc => ?_
  obtain ⟨name, hname, rfl⟩ := List.mem_map.1 hc
  exact h name hname

theorem map_name_injective : Function.Injective (List.map Component.name) :=
  List.map_injective_iff.2 fun _ _ h => Component.name.inj h

/-! ## Storage that shows a tree -/

section

variable {σ : Type}

/-- Whether an entry of a directory is that of a node with a name, and a file is read as it is. -/
structure ListsNode (fs : Storage σ) (s : σ) (name : RawText) (node : FlatNode) (e : DirEntry) :
    Prop where
  name : e.name = name.text
  type : e.type = node.type
  read : ∀ bytes, node = .file bytes → fs.read s e.path = .ok bytes

/-- Whether some entries are those of the directory at a place of a tree. -/
structure ListsPlace (fs : Storage σ) (s : σ) (T : NameTree) (place : Location)
    (entries : List DirEntry) : Prop where
  entry : ∀ e ∈ entries, ∃ name node, T.node? (place ++ [name]) = some node ∧
    ListsNode fs s name node e
  all : ∀ name node, T.node? (place ++ [name]) = some node →
    ∃ e ∈ entries, ListsNode fs s name node e

/-- Whether a path leads to the directory of a tree that some names lead to from the vendor
directory, which is called `top` and lies right below the top of the tree. -/
structure ShowsDirectory (fs : Storage σ) (s : σ) (T : NameTree) (vendor : Path) (top : RawText)
    (dir : Path) (steps : Location) : Prop where
  directory : T.node? (top :: steps) = some .directory
  importPath : importPathOf? vendor dir = some (spelledPath (steps.map .name))
  entries : ∃ entries, fs.entries s dir = .ok entries ∧ ListsPlace fs s T (top :: steps) entries

/-- Whether what a storage answers about the vendor directory and what is below is what a tree says
about its directory called `top`. -/
structure Shows (fs : Storage σ) (s : σ) (T : NameTree) (vendor : Path) (top : RawText) :
    Prop where
  contains : fs.contains s vendor = (T.node? [top]).isSome
  isDirectory : fs.isDirectory s vendor = decide (T.node? [top] = some .directory)
  directories : T.node? [top] = some .directory → ∃ dirs, fs.directories s vendor = .ok dirs ∧
    (∀ dir ∈ dirs, ∃ steps, ShowsDirectory fs s T vendor top dir steps) ∧
    ∀ steps, T.node? (top :: steps) = some .directory →
      ∃ dir ∈ dirs, ShowsDirectory fs s T vendor top dir steps

variable {fs : Storage σ} {s : σ} {T : NameTree} {vendor dir : Path} {top : RawText}
  {place steps : Location} {entries : List DirEntry}

/-! ### Directories -/

theorem ListsPlace.isSource_of_mem {e : DirEntry} (h : ListsPlace fs s T place entries)
    (he : e ∈ librarySources entries) :
    ∃ name bytes, T.IsSource place name bytes ∧ fs.read s e.path = .ok bytes := by
  obtain ⟨hmem, htype, hlib⟩ := mem_librarySources_iff.1 he
  obtain ⟨name, node, hnode, hlists⟩ := h.entry e hmem
  cases node with
  | directory => exact absurd hlists.type htype
  | file bytes => exact ⟨name, bytes, ⟨hlists.name ▸ hlib, hnode⟩, hlists.read bytes rfl⟩

theorem ListsPlace.exists_mem_of_isSource {name : RawText} {bytes : Bytes}
    (h : ListsPlace fs s T place entries) (hsource : T.IsSource place name bytes) :
    ∃ e ∈ librarySources entries, fs.read s e.path = .ok bytes := by
  obtain ⟨e, he, hlists⟩ := h.all name _ hsource.2
  refine ⟨e, mem_librarySources_iff.2 ⟨he, ?_, hlists.name ▸ hsource.1⟩, hlists.read bytes rfl⟩
  rw [hlists.type]
  simp [FlatNode.type]

theorem readHeader_eq_of_read {path : Path} {bytes : Bytes} {header : Header}
    (h : fs.read s path = .ok bytes) :
    readHeader fs s path = .ok header ↔ sourceHeader bytes = .ok header := by
  rw [readHeader, h, sourceHeader]
  cases hheader : Header.ofSource (Utf8.decodeLossy bytes) with
  | error fault => simp only [hheader, reduceCtorEq]
  | ok header => simp only [hheader, Except.ok.injEq]

/-- What is read for a directory that is listed are the headers of its sources. -/
theorem ListsPlace.readAmong_iff (h : ListsPlace fs s T place entries) (header : Header) :
    ReadAmong fs s ((librarySources entries).map (·.path)) header ↔ T.HeaderAt place header := by
  constructor
  · rintro ⟨_, hpath, hheader⟩
    obtain ⟨e, he, rfl⟩ := List.mem_map.1 hpath
    obtain ⟨name, bytes, hsource, hread⟩ := h.isSource_of_mem he
    exact ⟨name, bytes, hsource, (readHeader_eq_of_read hread).1 hheader⟩
  · rintro ⟨name, bytes, hsource, hheader⟩
    obtain ⟨e, he, hread⟩ := h.exists_mem_of_isSource hsource
    exact ⟨e.path, List.mem_map_of_mem he, (readHeader_eq_of_read hread).2 hheader⟩

theorem ListsPlace.readable_iff (h : ListsPlace fs s T place entries) :
    (∀ path ∈ (librarySources entries).map (·.path),
        ∃ header, readHeader fs s path = .ok header) ↔ T.Readable place := by
  constructor
  · intro hall name bytes hsource
    obtain ⟨e, he, hread⟩ := h.exists_mem_of_isSource hsource
    obtain ⟨header, hheader⟩ := hall e.path (List.mem_map_of_mem he)
    exact ⟨header, (readHeader_eq_of_read hread).1 hheader⟩
  · intro hall path hpath
    obtain ⟨e, he, rfl⟩ := List.mem_map.1 hpath
    obtain ⟨name, bytes, hsource, hread⟩ := h.isSource_of_mem he
    obtain ⟨header, hheader⟩ := hall _ _ hsource
    exact ⟨header, (readHeader_eq_of_read hread).2 hheader⟩

namespace ShowsDirectory

variable {contents : Option Contents}

/-- What a directory contains is what its sources declare together. -/
theorem directoryContents?_eq_ok_iff (h : ShowsDirectory fs s T vendor top dir steps) :
    directoryContents? fs s dir = .ok contents ↔
      T.Readable (top :: steps) ∧ Gathered (T.HeaderAt (top :: steps)) contents := by
  obtain ⟨entries, hentries, hlists⟩ := h.entries
  have hafter : ∀ after, gatherAll fs s ((librarySources entries).map (·.path)) = .ok after →
      T.Readable (top :: steps) ∧ Gathered (T.HeaderAt (top :: steps)) after := by
    intro after hgather
    obtain ⟨hof, hread⟩ := gathered_of_gatherAll hgather
    exact ⟨hlists.readable_iff.1 hread, hof.congr hlists.readAmong_iff⟩
  rw [directoryContents?, hentries]
  refine ⟨hafter contents, ?_⟩
  rintro ⟨hreadable, hgathered⟩
  obtain ⟨after, hgather⟩ := exists_gatherAll_eq_ok (hlists.readable_iff.2 hreadable)
    ((SameName.of_gathered hgathered).mono fun a => (hlists.readAmong_iff a).1)
  rw [hgathered.eq (hafter after hgather).2]
  exact hgather

theorem exists_directoryContents?_iff (h : ShowsDirectory fs s T vendor top dir steps) :
    (∃ contents, directoryContents? fs s dir = .ok contents) ↔
      T.Readable (top :: steps) ∧ SameName (T.HeaderAt (top :: steps)) := by
  obtain ⟨entries, hentries, hlists⟩ := h.entries
  constructor
  · rintro ⟨contents, hcontents⟩
    obtain ⟨hreadable, hgathered⟩ := h.directoryContents?_eq_ok_iff.1 hcontents
    exact ⟨hreadable, .of_gathered hgathered⟩
  · rintro ⟨hreadable, hname⟩
    rw [directoryContents?, hentries]
    exact exists_gatherAll_eq_ok (hlists.readable_iff.2 hreadable)
      (hname.mono fun a => (hlists.readAmong_iff a).1)

theorem plain (h : ShowsDirectory fs s T vendor top dir steps) :
    ∀ name ∈ steps, IsPlainName name :=
  fun name hname => NameTree.plain_of_node? h.directory name (List.mem_cons_of_mem _ hname)

theorem texts (h : ShowsDirectory fs s T vendor top dir steps) :
    ∀ name ∈ steps, (Component.name name).IsText :=
  fun name hname => NameTree.texts_of_node? h.directory name (List.mem_cons_of_mem _ hname)

theorem importPath_eq_empty_iff (h : ShowsDirectory fs s T vendor top dir steps) :
    spelledPath (steps.map .name) = "" ↔ steps = [] := by
  rw [spelledPath_eq_empty_iff (isStep_map_name h.plain), List.map_eq_nil_iff]

/-- Directories of one tree with the same path are one, since their names are texts. -/
theorem eq_of_spelledPath_eq {dir' : Path} {steps' : Location}
    (h : ShowsDirectory fs s T vendor top dir steps)
    (h' : ShowsDirectory fs s T vendor top dir' steps')
    (heq : spelledPath (steps.map .name) = spelledPath (steps'.map .name)) : steps = steps' := by
  rw [spelledPath_eq_iff (isStep_map_name h.plain) (isStep_map_name h'.plain),
    map_reading_map_name h.texts, map_reading_map_name h'.texts] at heq
  exact map_name_injective heq

theorem scannable_iff (h : ShowsDirectory fs s T vendor top dir steps) :
    Scannable fs s vendor dir ↔ (steps ≠ [] →
      T.Readable (top :: steps) ∧ SameName (T.HeaderAt (top :: steps))) := by
  rw [← h.exists_directoryContents?_iff, Scannable]
  simp [h.importPath, h.importPath_eq_empty_iff]

end ShowsDirectory

/-! ### Discovery -/

namespace Shows

variable {dirs : List Path} {packages : PackageSet}

/-- Where the vendor directory is one, what is found is what its directories add. -/
theorem discover_eq_scanFrom (h : Shows fs s T vendor top)
    (hdir : T.node? [top] = some .directory) (hdirs : fs.directories s vendor = .ok dirs) :
    discover fs s vendor = scanFrom fs s vendor .empty dirs := by
  have hcheck : checkVendor fs s vendor = .ok () := by
    simp [checkVendor, h.contains, h.isDirectory, hdir]
  simp only [discover, hcheck, scan, hdirs]
  cases scanFrom fs s vendor .empty dirs <;> rfl

theorem isPackageOf_iff {p : Package} (h : ShowsDirectory fs s T vendor top dir steps)
    (hreadable : steps ≠ [] → T.Readable (top :: steps)) :
    IsPackageOf fs s vendor dir p ↔ steps ≠ [] ∧ spelledPath (steps.map .name) = p.importPath ∧
      Contents.IsOf (T.HeaderAt (top :: steps)) ⟨p.name, p.imports⟩ := by
  constructor
  · rintro ⟨hpath, hne, hcontents⟩
    rw [h.importPath, Option.some.injEq] at hpath
    exact ⟨fun hnil => hne (hpath.symm.trans (h.importPath_eq_empty_iff.2 hnil)), hpath,
      (h.directoryContents?_eq_ok_iff.1 hcontents).2⟩
  · rintro ⟨hne, hpath, hof⟩
    refine ⟨hpath ▸ h.importPath, fun hempty => ?_,
      h.directoryContents?_eq_ok_iff.2 ⟨hreadable hne, hof⟩⟩
    exact hne (h.importPath_eq_empty_iff.1 (hpath.trans hempty))

/-- Directories of one storage with the same path from the vendor directory have the same package.
-/
theorem scansApart (h : ∀ dir ∈ dirs, ∃ steps, ShowsDirectory fs s T vendor top dir steps)
    (hreadable : ∀ steps, steps ≠ [] → T.node? (top :: steps) = some .directory →
      T.Readable (top :: steps)) : ScansApart fs s vendor dirs := by
  intro dir hdir dir' hdir' p q hp hq hpath
  obtain ⟨steps, hshows⟩ := h dir hdir
  obtain ⟨steps', hshows'⟩ := h dir' hdir'
  obtain ⟨-, hkey, hof⟩ :=
    (isPackageOf_iff hshows fun hne => hreadable steps hne hshows.directory).1 hp
  obtain ⟨-, hkey', hof'⟩ :=
    (isPackageOf_iff hshows' fun hne => hreadable steps' hne hshows'.directory).1 hq
  obtain rfl := hshows.eq_of_spelledPath_eq hshows' (hkey.trans (hpath.trans hkey'.symm))
  exact Package.eq_of_isOf hpath hof hof'

theorem directory_of_isOf {c : Contents} (hof : c.IsOf (T.HeaderAt place)) :
    T.node? place = some .directory := by
  obtain ⟨_, name, bytes, ⟨-, hfile⟩, -⟩ := hof.inhabited
  exact NameTree.node?_parent hfile

/-- The packages that the directories of a tree add are those of the tree. -/
theorem hasPackages_of_scanFrom (hdir : T.node? [top] = some .directory)
    (hshows : ∀ dir ∈ dirs, ∃ steps, ShowsDirectory fs s T vendor top dir steps)
    (hall : ∀ steps, T.node? (top :: steps) = some .directory →
      ∃ dir ∈ dirs, ShowsDirectory fs s T vendor top dir steps)
    (hscan : scanFrom fs s vendor .empty dirs = .ok packages) : T.HasPackages top packages := by
  have hscannable := exists_scanFrom_iff.1 ⟨packages, hscan⟩
  have hcoherent : ∀ steps, steps ≠ [] → T.node? (top :: steps) = some .directory →
      T.Readable (top :: steps) ∧ SameName (T.HeaderAt (top :: steps)) := by
    intro steps hne hplace
    obtain ⟨dir, hmem, hshow⟩ := hall steps hplace
    exact hshow.scannable_iff.1 (hscannable dir hmem) hne
  refine ⟨hdir, hcoherent, fun key p => ?_⟩
  have hapart := scansApart hshows fun steps hne hplace => (hcoherent steps hne hplace).1
  rw [find?_scanFrom_iff hapart hscan, eq_comm]
  refine and_congr_right fun hkey => ⟨?_, ?_⟩
  · rintro ⟨dir, hmem, hp⟩
    obtain ⟨steps, hshow⟩ := hshows dir hmem
    obtain ⟨hne, hpath, hof⟩ :=
      (isPackageOf_iff hshow fun hne => (hcoherent steps hne hshow.directory).1).1 hp
    exact ⟨steps, hne, hpath.trans hkey, hof⟩
  · rintro ⟨steps, hne, hpath, hof⟩
    have hplace := directory_of_isOf hof
    obtain ⟨dir, hmem, hshow⟩ := hall steps hplace
    exact ⟨dir, hmem, (isPackageOf_iff hshow fun hne => (hcoherent steps hne hplace).1).2
      ⟨hne, hpath.trans hkey.symm, hof⟩⟩

/-- The packages found in a storage that shows a tree are those of the tree. -/
theorem discover_eq_ok_iff (h : Shows fs s T vendor top) :
    discover fs s vendor = .ok packages ↔ T.HasPackages top packages := by
  constructor
  · intro hfound
    by_cases hdir : T.node? [top] = some .directory
    · obtain ⟨dirs, hdirs, hshows, hall⟩ := h.directories hdir
      rw [h.discover_eq_scanFrom hdir hdirs] at hfound
      exact hasPackages_of_scanFrom hdir hshows hall hfound
    · obtain ⟨fault, hcheck⟩ : ∃ fault, checkVendor fs s vendor = .error fault := by
        rw [checkVendor, h.isDirectory, decide_eq_false hdir]
        split <;> exact ⟨_, rfl⟩
      rw [discover, hcheck] at hfound
      cases hfound
  · intro hpackages
    obtain ⟨dirs, hdirs, hshows, hall⟩ := h.directories hpackages.directory
    rw [h.discover_eq_scanFrom hpackages.directory hdirs]
    obtain ⟨found, hscan⟩ : ∃ found, scanFrom fs s vendor .empty dirs = .ok found := by
      refine exists_scanFrom_iff.2 fun dir hmem => ?_
      obtain ⟨steps, hshow⟩ := hshows dir hmem
      exact hshow.scannable_iff.2 fun hne => hpackages.coherent steps hne hshow.directory
    rw [hscan, hpackages.eq (hasPackages_of_scanFrom hpackages.directory hshows hall hscan)]

end Shows

end

end VendorBuild
