import VendorBuild.Proofs.Gathering
import VendorBuild.Proofs.Scanned

/-!
# The sources of a directory

The order in which a flat store lists what is in it is left open: a storage may list entries and
directories in any order that it likes, and still be the flat store up to order. In whatever order
they are listed, the sources of a directory are the files directly in it with the name of a library
source, and what the directory contains is what their headers declare together.

Results:
* `mem_sources_iff`: which paths are read for a directory.
* `exists_directoryContents?_iff`: when the contents of a directory can be told.
* `gathered_of_directoryContents?`: what they are.
-/

namespace VendorBuild

/-! ## Orders of listing -/

/-- Two answers that list the same things, each as often, or are the same fault. -/
inductive SameUpToOrder {ε α : Type} : Except ε (List α) → Except ε (List α) → Prop
  | ok {xs ys : List α} (h : xs.Perm ys) : SameUpToOrder (.ok xs) (.ok ys)
  | error (fault : ε) : SameUpToOrder (.error fault) (.error fault)

theorem SameUpToOrder.exists_perm {ε α : Type} {xs : List α} {answer : Except ε (List α)}
    (h : SameUpToOrder (.ok xs) answer) : ∃ ys, answer = .ok ys ∧ xs.Perm ys := by
  cases h with
  | ok h => exact ⟨_, rfl, h⟩

theorem SameUpToOrder.refl {ε α : Type} (answer : Except ε (List α)) :
    SameUpToOrder answer answer := by
  cases answer with
  | error fault => exact .error fault
  | ok xs => exact .ok (.refl xs)

theorem SameUpToOrder.reverse {ε α : Type} (answer : Except ε (List α)) :
    SameUpToOrder answer (answer.map List.reverse) := by
  cases answer with
  | error fault => exact .error fault
  | ok xs => exact .ok xs.reverse_perm.symm

/-- A storage of flat stores that lists entries and directories in an order of its own. -/
structure FlatStore.UpToOrder (fs : Storage FlatStore) : Prop where
  contains : fs.contains = FlatStore.contains
  isDirectory : fs.isDirectory = FlatStore.isDirectory
  read : fs.read = FlatStore.read
  write : fs.write = FlatStore.write
  entries : ∀ s p, SameUpToOrder (entriesOf s p) (fs.entries s p)
  directories : ∀ s p, SameUpToOrder (FlatStore.directories s p) (fs.directories s p)

namespace FlatStore

/-- The flat store as a storage that lists everything from the back. -/
def backwards : Storage FlatStore :=
  { storage with
    entries := fun s p => (s.entriesOf p).map List.reverse
    directories := fun s p => (s.directories p).map List.reverse }

theorem upToOrder_storage : UpToOrder storage :=
  ⟨rfl, rfl, rfl, rfl, fun _ _ => .refl _, fun _ _ => .refl _⟩

theorem upToOrder_backwards : UpToOrder backwards :=
  ⟨rfl, rfl, rfl, rfl, fun _ _ => .reverse _, fun _ _ => .reverse _⟩

end FlatStore

/-! ## Entries -/

namespace FlatStore

variable {s : FlatStore} {p : Path} {place : List Component} {node : FlatNode}

theorem locate_of_isAbsolute (h : p.isAbsolute = true) : s.locate p = p := if_pos h

theorem exists_entry_of_findAt? (h : s.findAt? place = some node) :
    ∃ e ∈ s.entries, e.path.components = place ∧ e.node = node := by
  obtain ⟨e, he, hnode⟩ := Option.map_eq_some_iff.1 h
  have hplace := List.find?_some he
  exact ⟨e, List.mem_of_find?_eq_some he, by simpa using hplace, hnode⟩

end FlatStore

/-- A path lies directly in a place and has a name exactly if the name is its one further step. -/
theorem Path.components_eq_concat_iff {p : Path} {place : List Component} {name : RawText} :
    p.components = place ++ [.name name] ↔ p.parent? = some place ∧ p.fileName? = some name := by
  constructor
  · intro h
    rw [parent?, fileName?, h, List.getLast?_concat, List.dropLast_concat]
    exact ⟨rfl, rfl⟩
  · rintro ⟨hparent, hname⟩
    have hlast : p.components.getLast? = some (.name name) := by
      unfold fileName? at hname
      split at hname
      · rename_i hlast
        cases hname
        exact hlast
      · cases hname
    rw [parent?, hlast] at hparent
    obtain ⟨front, hfront⟩ := List.getLast?_eq_some_iff.1 hlast
    rw [hfront, List.dropLast_concat] at hparent
    rw [hfront, Option.some.inj hparent]

/-! ## Sources -/

/-- The header of a source file. Bytes that are not UTF-8 are replaced. -/
def sourceHeader (bytes : Bytes) : Except HeaderFault Header :=
  Header.ofSource (Utf8.decodeLossy bytes)

/-- Whether a file with the given name and bytes is a source of the directory at a place. -/
structure IsSource (s : FlatStore) (place : List Component) (name : RawText) (bytes : Bytes) :
    Prop where
  directory : s.findAt? place = some .directory
  library : isLibrarySource name.text = true
  file : s.findAt? (place ++ [.name name]) = some (.file bytes)

/-- Whether a header is that of a source of the directory at a place. -/
def HeaderAt (s : FlatStore) (place : List Component) (h : Header) : Prop :=
  ∃ name bytes, IsSource s place name bytes ∧ sourceHeader bytes = .ok h

/-- Whether all sources of the directory at a place have headers, and the headers the same name. -/
structure Coherent (s : FlatStore) (place : List Component) : Prop where
  readable : ∀ name bytes, IsSource s place name bytes → ∃ h, sourceHeader bytes = .ok h
  sameName : SameName (HeaderAt s place)

section

variable {fs : Storage FlatStore} {s : FlatStore} {dir : Path}

theorem mem_librarySources_iff {entries : List DirEntry} {e : DirEntry} :
    e ∈ librarySources entries ↔
      e ∈ entries ∧ e.type ≠ .directory ∧ isLibrarySource e.name = true := by
  rw [librarySources, List.mem_mergeSort, List.mem_filter]
  simp

/-- The paths that are read for a directory are those of its sources. -/
theorem mem_sources_iff {entries : List DirEntry} {path : Path} (hfs : FlatStore.UpToOrder fs)
    (hdir : dir.isAbsolute = true) (hplace : s.findAt? dir.components = some .directory)
    (h : fs.entries s dir = .ok entries) :
    path ∈ (librarySources entries).map (·.path) ↔
      ∃ name bytes, IsSource s dir.components name bytes ∧
        path.components = dir.components ++ [.name name] ∧ ⟨path, .file bytes⟩ ∈ s.entries := by
  have hlisted : ∀ d, d ∈ entries ↔
      ∃ e ∈ s.entries, e.path.parent? = some dir.components ∧ FlatStore.listed e = d := by
    have hentries := hfs.entries s dir
    rw [h, FlatStore.entriesOf, FlatStore.find?, FlatStore.locate_of_isAbsolute hdir, hplace]
      at hentries
    intro d
    cases hentries with
    | ok hperm => simp [← hperm.mem_iff, and_assoc]
  simp only [List.mem_map, mem_librarySources_iff, hlisted]
  constructor
  · rintro ⟨_, ⟨⟨⟨p, node⟩, he, hparent, rfl⟩, htype, hlib⟩, rfl⟩
    cases node with
    | directory => exact absurd rfl htype
    | file bytes =>
      -- a path that ends in no name has no source name either
      cases hname : p.fileName? with
      | none =>
        rw [FlatStore.listed, hname] at hlib
        have hempty : isLibrarySource "" = true := hlib
        exact absurd hempty (by decide)
      | some name =>
        rw [FlatStore.listed, hname] at hlib
        have hcomp := Path.components_eq_concat_iff.2 ⟨hparent, hname⟩
        exact ⟨name, bytes, ⟨hplace, hlib, hcomp ▸ FlatStore.findAt?_of_mem_entries he⟩, hcomp, he⟩
  · rintro ⟨name, bytes, hsource, hcomp, he⟩
    obtain ⟨hparent, hname⟩ := Path.components_eq_concat_iff.1 hcomp
    refine ⟨_, ⟨⟨_, he, hparent, rfl⟩, fun htype => ?_, ?_⟩, rfl⟩
    · cases htype
    · rw [FlatStore.listed, hname]
      exact hsource.library

/-- The header of the file at a path is that of its bytes. -/
theorem readHeader_eq_ok_iff {path : Path} {bytes : Bytes} {h : Header}
    (hfs : FlatStore.UpToOrder fs) (hpath : path.isAbsolute = true)
    (hfile : s.findAt? path.components = some (.file bytes)) :
    readHeader fs s path = .ok h ↔ sourceHeader bytes = .ok h := by
  rw [readHeader, hfs.read, FlatStore.read, FlatStore.find?,
    FlatStore.locate_of_isAbsolute hpath, hfile, sourceHeader]
  cases hheader : Header.ofSource (Utf8.decodeLossy bytes) with
  | error fault => simp only [hheader, reduceCtorEq]
  | ok header => simp only [hheader, Except.ok.injEq]

theorem readHeader_of_isSource {path : Path} {name : RawText} {bytes : Bytes}
    (hfs : FlatStore.UpToOrder fs) (hdir : dir.isAbsolute = true)
    (hsource : IsSource s dir.components name bytes)
    (hcomp : path.components = dir.components ++ [.name name]) (h : Header) :
    readHeader fs s path = .ok h ↔ sourceHeader bytes = .ok h := by
  refine readHeader_eq_ok_iff hfs ?_ (hcomp ▸ hsource.file)
  rw [Path.components_of_isAbsolute hdir, List.cons_append] at hcomp
  exact Path.isAbsolute_of_components hcomp

theorem exists_source_of_mem {entries : List DirEntry} {path : Path}
    (hfs : FlatStore.UpToOrder fs) (hdir : dir.isAbsolute = true)
    (hplace : s.findAt? dir.components = some .directory) (h : fs.entries s dir = .ok entries)
    (hpath : path ∈ (librarySources entries).map (·.path)) :
    ∃ name bytes, IsSource s dir.components name bytes ∧
      ∀ header, readHeader fs s path = .ok header ↔ sourceHeader bytes = .ok header := by
  obtain ⟨name, bytes, hsource, hcomp, -⟩ := (mem_sources_iff hfs hdir hplace h).1 hpath
  exact ⟨name, bytes, hsource, readHeader_of_isSource hfs hdir hsource hcomp⟩

theorem exists_mem_of_isSource {entries : List DirEntry} {name : RawText} {bytes : Bytes}
    (hfs : FlatStore.UpToOrder fs) (hdir : dir.isAbsolute = true)
    (h : fs.entries s dir = .ok entries) (hsource : IsSource s dir.components name bytes) :
    ∃ path ∈ (librarySources entries).map (·.path),
      ∀ header, readHeader fs s path = .ok header ↔ sourceHeader bytes = .ok header := by
  obtain ⟨⟨path, node⟩, he, hcomp, rfl⟩ := FlatStore.exists_entry_of_findAt? hsource.file
  have hpath := (mem_sources_iff hfs hdir hsource.directory h).2 ⟨name, bytes, hsource, hcomp, he⟩
  exact ⟨path, hpath, readHeader_of_isSource hfs hdir hsource hcomp⟩

/-- What is read for a directory are the headers of its sources. -/
theorem readAmong_iff_headerAt {entries : List DirEntry} (hfs : FlatStore.UpToOrder fs)
    (hdir : dir.isAbsolute = true) (hplace : s.findAt? dir.components = some .directory)
    (h : fs.entries s dir = .ok entries) (header : Header) :
    ReadAmong fs s ((librarySources entries).map (·.path)) header ↔
      HeaderAt s dir.components header := by
  constructor
  · rintro ⟨path, hpath, hheader⟩
    obtain ⟨name, bytes, hsource, hread⟩ := exists_source_of_mem hfs hdir hplace h hpath
    exact ⟨name, bytes, hsource, (hread header).1 hheader⟩
  · rintro ⟨name, bytes, hsource, hheader⟩
    obtain ⟨path, hpath, hread⟩ := exists_mem_of_isSource hfs hdir h hsource
    exact ⟨path, hpath, (hread header).2 hheader⟩

theorem readable_iff {entries : List DirEntry} (hfs : FlatStore.UpToOrder fs)
    (hdir : dir.isAbsolute = true) (hplace : s.findAt? dir.components = some .directory)
    (h : fs.entries s dir = .ok entries) :
    (∀ path ∈ (librarySources entries).map (·.path),
        ∃ header, readHeader fs s path = .ok header) ↔
      ∀ name bytes, IsSource s dir.components name bytes →
        ∃ header, sourceHeader bytes = .ok header := by
  constructor
  · intro hall name bytes hsource
    obtain ⟨path, hpath, hread⟩ := exists_mem_of_isSource hfs hdir h hsource
    obtain ⟨header, hheader⟩ := hall path hpath
    exact ⟨header, (hread header).1 hheader⟩
  · intro hall path hpath
    obtain ⟨name, bytes, hsource, hread⟩ := exists_source_of_mem hfs hdir hplace h hpath
    obtain ⟨header, hheader⟩ := hall name bytes hsource
    exact ⟨header, (hread header).2 hheader⟩

theorem entries_of_directory (hfs : FlatStore.UpToOrder fs) (hdir : dir.isAbsolute = true)
    (hplace : s.findAt? dir.components = some .directory) :
    ∃ entries, fs.entries s dir = .ok entries := by
  have hentries := hfs.entries s dir
  rw [FlatStore.entriesOf, FlatStore.find?, FlatStore.locate_of_isAbsolute hdir, hplace] at hentries
  obtain ⟨entries, h, -⟩ := hentries.exists_perm
  exact ⟨entries, h⟩

/-- The contents of a directory can be told exactly if its sources are coherent. -/
theorem exists_directoryContents?_iff (hfs : FlatStore.UpToOrder fs) (hdir : dir.isAbsolute = true)
    (hplace : s.findAt? dir.components = some .directory) :
    (∃ contents, directoryContents? fs s dir = .ok contents) ↔ Coherent s dir.components := by
  obtain ⟨entries, hentries⟩ := entries_of_directory hfs hdir hplace
  have hamong := readAmong_iff_headerAt hfs hdir hplace hentries
  have hall := readable_iff hfs hdir hplace hentries
  rw [directoryContents?, hentries]
  constructor
  · rintro ⟨contents, hgather⟩
    obtain ⟨hcontents, hread⟩ := gathered_of_gatherAll hgather
    exact ⟨hall.1 hread, (SameName.of_gathered hcontents).mono fun a ha => (hamong a).2 ha⟩
  · intro hcoherent
    exact exists_gatherAll_eq_ok (hall.2 hcoherent.readable)
      (hcoherent.sameName.mono fun a ha => (hamong a).1 ha)

/-- The contents of a directory are what the headers of its sources declare together. -/
theorem gathered_of_directoryContents? {contents : Option Contents} (hfs : FlatStore.UpToOrder fs)
    (hdir : dir.isAbsolute = true) (hplace : s.findAt? dir.components = some .directory)
    (h : directoryContents? fs s dir = .ok contents) :
    Gathered (HeaderAt s dir.components) contents := by
  obtain ⟨entries, hentries⟩ := entries_of_directory hfs hdir hplace
  rw [directoryContents?, hentries] at h
  exact (gathered_of_gatherAll h).1.congr (readAmong_iff_headerAt hfs hdir hplace hentries)

end

end VendorBuild
