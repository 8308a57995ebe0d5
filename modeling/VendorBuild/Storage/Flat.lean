import VendorBuild.Storage.Basic
import VendorBuild.Text.Utf8

/-!
# The flat store

A store in memory that keeps one flat list of entries, each a directory or a file, under paths that
differ in their components. An entry keeps the spelling of the path under which it was first put.
Relative paths start from the root of the store. Writing to a path can be denied.

Results:
* `FlatStore.find?_put`: what is at a path after an entry has been put.
* `FlatStore.find?_ensure`: a directory that is ensured takes the place of nothing.
-/

namespace VendorBuild

/-- What is at a path of a flat store. -/
inductive FlatNode where
  | directory
  | file (bytes : Bytes)
deriving DecidableEq

/-- What a node is as an entry of a directory. -/
def FlatNode.type : FlatNode → EntryType
  | directory => .directory
  | file _ => .file

/-- A path and what is there. -/
structure FlatEntry where
  path : Path
  node : FlatNode
deriving DecidableEq

/-- A flat store. -/
structure FlatStore where
  /-- Where relative paths start. -/
  root : Path
  entries : List FlatEntry
  /-- No two entries are at the same place. -/
  distinct : entries.Pairwise (fun a b => a.path.components ≠ b.path.components)
  /-- The paths that cannot be written. -/
  denied : List Path

namespace FlatStore

/-- The store without entries. -/
def empty (root : Path) : FlatStore := ⟨root, [], List.Pairwise.nil, []⟩

/-- The path that a path means in the store. -/
def locate (s : FlatStore) (p : Path) : Path := if p.isAbsolute then p else s.root.join p

/-- What is at the place with the given components. -/
def findAt? (s : FlatStore) (place : List Component) : Option FlatNode :=
  (s.entries.find? (·.path.components = place)).map (·.node)

/-- What is at a path, as spelled in full. -/
def find? (s : FlatStore) (p : Path) : Option FlatNode := s.findAt? p.components

/-- Puts a node at a path, in the place of what is there. -/
def putEntry (p : Path) (node : FlatNode) : List FlatEntry → List FlatEntry
  | [] => [⟨p, node⟩]
  | e :: rest =>
    if e.path.components = p.components then { e with node } :: rest else e :: putEntry p node rest

theorem place_of_mem_putEntry {p : Path} {node : FlatNode} {entries : List FlatEntry}
    {e : FlatEntry} (h : e ∈ putEntry p node entries) :
    e.path.components = p.components ∨ ∃ d ∈ entries, d.path = e.path := by
  induction entries with
  | nil =>
    rw [List.mem_singleton.1 h]
    exact .inl rfl
  | cons d rest ih =>
    rw [putEntry] at h
    split at h
    · rename_i hd
      rcases List.mem_cons.1 h with rfl | h
      · exact .inl hd
      · exact .inr ⟨e, by simp [h], rfl⟩
    · rcases List.mem_cons.1 h with rfl | h
      · exact .inr ⟨e, by simp, rfl⟩
      · rcases ih h with h | ⟨f, hf, he⟩
        · exact .inl h
        · exact .inr ⟨f, by simp [hf], he⟩

theorem distinct_putEntry {p : Path} {node : FlatNode} {entries : List FlatEntry}
    (h : entries.Pairwise (fun a b => a.path.components ≠ b.path.components)) :
    (putEntry p node entries).Pairwise (fun a b => a.path.components ≠ b.path.components) := by
  induction entries with
  | nil => exact List.pairwise_singleton ..
  | cons d rest ih =>
    have ⟨hd, hrest⟩ := List.pairwise_cons.1 h
    rw [putEntry]
    split
    · exact List.pairwise_cons.2 ⟨hd, hrest⟩
    · rename_i hne
      refine List.pairwise_cons.2 ⟨fun e he => ?_, ih hrest⟩
      rcases place_of_mem_putEntry he with he | ⟨f, hf, he⟩
      · exact he ▸ hne
      · exact he ▸ hd f hf

/-- The store with a node at a path, in the place of what was there. -/
def put (s : FlatStore) (p : Path) (node : FlatNode) : FlatStore :=
  { s with entries := putEntry p node s.entries, distinct := distinct_putEntry s.distinct }

/-- The store with a directory at a path, unless something is there. -/
def ensure (s : FlatStore) (p : Path) : FlatStore :=
  match s.find? p with
  | some _ => s
  | none => s.put p .directory

/-- The store with a directory at every step of a path where nothing is. -/
def ensureAll (s : FlatStore) (steps : List Component) : FlatStore :=
  (Path.extensions ⟨""⟩ steps).foldl ensure s

/-- Adds a directory, and those above it. -/
def addDirectory (s : FlatStore) (p : Path) : FlatStore := s.ensureAll (s.locate p).components

/-- Adds a file, in the place of what was there, and the directories above it. -/
def addFile (s : FlatStore) (p : Path) (bytes : Bytes) : FlatStore :=
  let p := s.locate p
  let s := match p.parent? with
    | some steps => s.ensureAll steps
    | none => s
  s.put p (.file bytes)

/-- Makes every later write to a path fail. -/
def deny (s : FlatStore) (p : Path) : FlatStore := { s with denied := s.denied ++ [s.locate p] }

/-- Whether writing to a path, as spelled in full, is denied. -/
def isDenied (s : FlatStore) (p : Path) : Bool := s.denied.any (·.components = p.components)

/-- The content of a file as text. -/
def text? (s : FlatStore) (p : Path) : Option String :=
  match s.find? (s.locate p) with
  | some (.file bytes) => some (Utf8.decodeLossy bytes)
  | _ => none

/-! ## The operations of a storage -/

/-- Whether something is at a path. -/
def contains (s : FlatStore) (p : Path) : Bool := (s.find? (s.locate p)).isSome

/-- Whether a directory is at a path. -/
def isDirectory (s : FlatStore) (p : Path) : Bool := s.find? (s.locate p) = some .directory

/-- The bytes of a file. -/
def read (s : FlatStore) (p : Path) : Except StorageFault Bytes :=
  match s.find? (s.locate p) with
  | some (.file bytes) => .ok bytes
  | some .directory => .error (.notFile (s.locate p))
  | none => .error (.fileNotFound (s.locate p))

/-- An entry as the directory that holds it lists it. -/
def listed (e : FlatEntry) : DirEntry :=
  ⟨e.path, (e.path.fileName?.map RawText.text).getD "", e.node.type⟩

/-- The entries whose paths lie directly below that of a directory. -/
def entriesOf (s : FlatStore) (p : Path) : Except StorageFault (List DirEntry) :=
  match s.find? (s.locate p) with
  | some .directory =>
    .ok ((s.entries.filter (·.path.parent? = some (s.locate p).components)).map listed)
  | some (.file _) => .error (.notDirectory (s.locate p))
  | none => .error (.directoryNotFound (s.locate p))

/-- The directories whose paths lie at or below a path. -/
def directories (s : FlatStore) (p : Path) : Except StorageFault (List Path) :=
  if s.contains p then
    .ok ((s.entries.filter fun e => e.node = .directory && Path.isUnder (s.locate p) e.path).map
      (·.path))
  else .error (.directoryNotFound (s.locate p))

/-- Whether the directory that is to hold a path, as spelled in full, is there. -/
def hasParent (s : FlatStore) (p : Path) : Bool :=
  match p.parent? with
  | some steps => s.findAt? steps = some .directory
  | none => false

/-- Writes a file in a directory, in the place of what was there. -/
def write (s : FlatStore) (p : Path) (text : String) : Except StorageFault FlatStore :=
  if s.isDenied (s.locate p) then .error (.permissionDenied (s.locate p))
  else if s.hasParent (s.locate p) then .ok (s.put (s.locate p) (.file (Utf8.encode text)))
  else .error (.parentNotFound (s.locate p))

/-- The flat store as a storage. -/
def storage : Storage FlatStore where
  contains := contains
  isDirectory := isDirectory
  read := read
  entries := entriesOf
  directories := directories
  write := write

/-! ## Look-up -/

theorem findAt?_putEntry {p : Path} {node : FlatNode} {entries : List FlatEntry}
    {place : List Component} :
    ((putEntry p node entries).find? (·.path.components = place)).map (·.node) =
      if p.components = place then some node
      else (entries.find? (·.path.components = place)).map (·.node) := by
  induction entries with
  | nil => by_cases h : p.components = place <;> simp [putEntry, h]
  | cons d rest ih =>
    rw [putEntry]
    split
    · rename_i hd
      by_cases h : p.components = place
      · simp [hd, h]
      · simp [hd, h]
    · rename_i hd
      by_cases hp : d.path.components = place
      · have : ¬ p.components = place := fun h => hd (hp.trans h.symm)
        simp [hp, this]
      · simp only [List.find?_cons, hp, decide_false]
        exact ih

/-- A node that is put is found at its place, and what was there elsewhere. -/
theorem findAt?_put {s : FlatStore} {p : Path} {node : FlatNode} {place : List Component} :
    (s.put p node).findAt? place = if p.components = place then some node else s.findAt? place :=
  findAt?_putEntry

theorem find?_put {s : FlatStore} {p q : Path} {node : FlatNode} :
    (s.put p node).find? q = if p.components = q.components then some node else s.find? q :=
  findAt?_put

/-- A directory that is ensured is there afterwards where nothing was before. -/
theorem find?_ensure {s : FlatStore} {p q : Path} :
    (s.ensure p).find? q =
      if p.components = q.components then some ((s.find? q).getD .directory) else s.find? q := by
  unfold ensure
  split
  · rename_i node hp
    split
    · rename_i hpq
      have : s.find? q = some node := by
        rw [← hp]
        simp [find?, hpq]
      simp [this]
    · rfl
  · rename_i hp
    rw [find?_put]
    split
    · rename_i hpq
      have : s.find? q = none := by
        rw [← hp]
        simp [find?, hpq]
      simp [this]
    · rfl

end FlatStore

end VendorBuild
