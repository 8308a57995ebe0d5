import VendorBuild.Package.Basic
import VendorBuild.Source.Header
import VendorBuild.Storage.Basic
import VendorBuild.Text.Utf8

/-!
# The package of a directory

The library sources of a directory make up one package. They are read in the order of their names,
so the first fault among them does not depend on the order in which the directory lists them. All of
them have to declare the same name, and the package imports what any of them imports. What stands
for C code among the imports is no package.

Results:
* `Contents.add_eq_ok_iff`: when a source joins the package of those before it.
* `exists_gather_of_gatherAll`: how the sources of a directory are gathered.
-/

namespace VendorBuild

/-- Whether a name ends in another. -/
def hasEnding (ending name : String) : Bool := ending.toList.isSuffixOf name.toList

/-- Whether a file of a given name is compiled into the library of its package. -/
def isLibrarySource (name : String) : Bool := hasEnding ".go" name && !hasEnding "_test.go" name

/-- The import that stands for C code. -/
def foreignImport : String := "C"

/-- Why a directory has no package. -/
inductive DirectoryFault where
  | storage (fault : StorageFault)
  /-- A source without a header. -/
  | header (path : Path) (fault : HeaderFault)
  /-- Two sources that declare different names. -/
  | mismatch (first second : String)
deriving DecidableEq

/-- What is said of a directory without a package. -/
def DirectoryFault.message : DirectoryFault → String
  | storage fault => fault.message
  | header path fault => fault.message path.text
  | mismatch first second => "package name mismatch: " ++ first ++ " vs " ++ second

/-- What the sources of a directory declare together. A name without characters stands for none so
    far. -/
structure Contents where
  name : String
  imports : NameSet

/-- The imports of a header that can be packages. -/
def Header.packageImports (h : Header) : NameSet :=
  NameSet.ofList (h.imports.filter (· ≠ foreignImport))

namespace Contents

/-- What no sources declare. -/
def empty : Contents := ⟨"", .empty⟩

/-- What a source declares together with those before it. -/
def add (before : Contents) (h : Header) : Except DirectoryFault Contents :=
  let imports := before.imports.union h.packageImports
  if before.name = "" then .ok ⟨h.packageName, imports⟩
  else if before.name = h.packageName then .ok ⟨before.name, imports⟩
  else .error (.mismatch before.name h.packageName)

/-- What one source declares. -/
def ofHeader (h : Header) : Contents := ⟨h.packageName, NameSet.empty.union h.packageImports⟩

theorem add_empty (h : Header) : empty.add h = .ok (ofHeader h) := rfl

/-- A source joins others that have a name exactly if it declares that name. -/
theorem add_eq_ok_iff {c d : Contents} {h : Header} (hc : c.name ≠ "") :
    c.add h = .ok d ↔
      c.name = h.packageName ∧ d = ⟨c.name, c.imports.union h.packageImports⟩ := by
  rw [add, if_neg hc]
  split
  · rename_i he
    simp [he, eq_comm]
  · rename_i he
    simp [he]

end Contents

section

variable {σ : Type} (fs : Storage σ) (s : σ)

/-- The header of the file at a path. Bytes that are not UTF-8 are replaced, since only the header
    has to be text. -/
def readHeader (path : Path) : Except DirectoryFault Header :=
  match fs.read s path with
  | .error fault => .error (.storage fault)
  | .ok bytes =>
    match Header.ofSource (Utf8.decodeLossy bytes) with
    | .error fault => .error (.header path fault)
    | .ok header => .ok header

/-- What the files at some paths declare together with `before`. -/
def gather (before : Contents) : List Path → Except DirectoryFault Contents
  | [] => .ok before
  | path :: rest =>
    match readHeader fs s path with
    | .error fault => .error fault
    | .ok header =>
      match before.add header with
      | .error fault => .error fault
      | .ok contents => gather contents rest

/-- What the files at some paths declare together, none if there are no files. -/
def gatherAll (paths : List Path) : Except DirectoryFault (Option Contents) :=
  match gather fs s .empty paths with
  | .error fault => .error fault
  | .ok contents => .ok (if paths.isEmpty then none else some contents)

/-- The library sources among the entries of a directory, in the order of their names. -/
def librarySources (entries : List DirEntry) : List DirEntry :=
  (entries.filter fun e => e.type ≠ .directory && isLibrarySource e.name).mergeSort
    fun a b => decide (a.name ≤ b.name)

/-- What the sources of a directory declare together, none if it has no sources. -/
def directoryContents? (dir : Path) : Except DirectoryFault (Option Contents) :=
  match fs.entries s dir with
  | .error fault => .error (.storage fault)
  | .ok entries => gatherAll fs s ((librarySources entries).map (·.path))

end

section

variable {σ : Type} {fs : Storage σ} {s : σ} {path : Path} {rest : List Path}

theorem gatherAll_cons (path : Path) (rest : List Path) :
    gatherAll fs s (path :: rest) = (gather fs s .empty (path :: rest)).map some := by
  rw [gatherAll]
  cases gather fs s .empty (path :: rest) <;> rfl

/-- The first source is not held against a name, as nothing has been declared before it. -/
theorem gather_empty_cons {header : Header} (h : readHeader fs s path = .ok header)
    (rest : List Path) :
    gather fs s .empty (path :: rest) = gather fs s (.ofHeader header) rest := by
  rw [gather, h]
  simp only [Contents.add_empty]

/-- What several files declare together starts with what the first one declares. -/
theorem exists_gather_of_gatherAll {contents : Option Contents}
    (h : gatherAll fs s (path :: rest) = .ok contents) :
    ∃ header c, readHeader fs s path = .ok header ∧
      gather fs s (.ofHeader header) rest = .ok c ∧ contents = some c := by
  rw [gatherAll_cons] at h
  cases hread : readHeader fs s path with
  | error fault =>
    rw [gather, hread] at h
    cases h
  | ok header =>
    rw [gather_empty_cons hread] at h
    cases hgather : gather fs s (.ofHeader header) rest with
    | error fault =>
      rw [hgather] at h
      cases h
    | ok c =>
      rw [hgather] at h
      exact ⟨header, c, rfl, hgather, (Except.ok.inj h).symm⟩

end

end VendorBuild
