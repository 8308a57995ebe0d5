import VendorBuild.Storage.Basic
import VendorBuild.Text.Utf8

/-!
# The linked tree

A tree of directories, files and symbolic links, in which paths are looked up as an operating system
does: step by step from a working directory, two dots leading to the directory above, links replaced
by what they lead to. The nodes are kept by location, the names that lead to them from the top
without passing a link.

Results:
* `LinkedTree.links_le_of_walk`: a way uses up links and gains none, so chains of links end.
* `LinkedTree.nodeAt?_put`: what is at a location after a node has been put.
-/

namespace VendorBuild

/-- The names that lead to a node from the top. -/
abbrev Location := List RawText

/-- What is at a location. -/
inductive LinkedNode where
  | directory
  | file (bytes : Bytes)
  | link (target : Path)
deriving DecidableEq

/-- What a node is as an entry of a directory. -/
def LinkedNode.type : LinkedNode → EntryType
  | directory => .directory
  | file _ => .file
  | link _ => .link

/-- A tree with links. -/
structure LinkedTree where
  /-- The directory in which relative paths start. -/
  workingDir : Location
  /-- The nodes below the top. -/
  nodes : List (Location × LinkedNode)
  /-- No two nodes are at the same location. -/
  distinct : nodes.Pairwise (fun a b => a.1 ≠ b.1)

namespace LinkedTree

/-- The tree that has nothing below its top. -/
def empty : LinkedTree := ⟨[], [], List.Pairwise.nil⟩

/-- What is at a location. The top is a directory. -/
def nodeAt? (t : LinkedTree) (place : Location) : Option LinkedNode :=
  if place = [] then some .directory
  else (t.nodes.find? (·.1 = place)).map (·.2)

/-- Puts a node at a location, in the place of what is there. -/
def putNode (place : Location) (node : LinkedNode) :
    List (Location × LinkedNode) → List (Location × LinkedNode)
  | [] => [(place, node)]
  | e :: rest => if e.1 = place then (place, node) :: rest else e :: putNode place node rest

theorem place_of_mem_putNode {place : Location} {node : LinkedNode}
    {nodes : List (Location × LinkedNode)} {e : Location × LinkedNode}
    (h : e ∈ putNode place node nodes) : e.1 = place ∨ e ∈ nodes := by
  induction nodes with
  | nil =>
    rw [List.mem_singleton.1 h]
    exact .inl rfl
  | cons d rest ih =>
    rw [putNode] at h
    split at h
    · rcases List.mem_cons.1 h with rfl | h
      · exact .inl rfl
      · exact .inr (by simp [h])
    · rcases List.mem_cons.1 h with rfl | h
      · exact .inr (by simp)
      · rcases ih h with h | h
        · exact .inl h
        · exact .inr (by simp [h])

theorem distinct_putNode {place : Location} {node : LinkedNode}
    {nodes : List (Location × LinkedNode)} (h : nodes.Pairwise (fun a b => a.1 ≠ b.1)) :
    (putNode place node nodes).Pairwise (fun a b => a.1 ≠ b.1) := by
  induction nodes with
  | nil => exact List.pairwise_singleton ..
  | cons d rest ih =>
    have ⟨hd, hrest⟩ := List.pairwise_cons.1 h
    rw [putNode]
    split
    · rename_i he
      exact List.pairwise_cons.2 ⟨fun e hm => he ▸ hd e hm, hrest⟩
    · rename_i hne
      refine List.pairwise_cons.2 ⟨fun e hm => ?_, ih hrest⟩
      rcases place_of_mem_putNode hm with he | hm
      · exact he ▸ hne
      · exact hd e hm

/-- The tree with a node at a location, in the place of what was there. -/
def put (t : LinkedTree) (place : Location) (node : LinkedNode) : LinkedTree :=
  { t with nodes := putNode place node t.nodes, distinct := distinct_putNode t.distinct }

/-! ## Looking up paths -/

/-- The names and dots of a path, in order. -/
def names (p : Path) : List RawText := p.raw.segments.filter (· ≠ "")

/-- Whether a path ends in a slash. -/
def endsInSlash (p : Path) : Bool := p.raw.bytes.getLast? = some RawText.slash

/-- The steps of a path: its names and dots, and a dot for a slash at the end, since that asks for a
    directory. -/
def steps (p : Path) : List RawText := names p ++ (if endsInSlash p then [("." : RawText)] else [])

/-- The location in which a path starts, seen from a directory. -/
def startFrom (place : Location) (p : Path) : Location := if p.isAbsolute then [] else place

/-- The greatest number of bytes in one name. -/
def nameLimit : Nat := 255

/-- The number of bytes that a path has to stay below. -/
def pathLimit : Nat := 4096

/-- The greatest number of links that are followed on one way. -/
def linkLimit : Nat := 40

/-- Where a way ends. -/
structure Arrival where
  place : Location
  /-- What is there, which may be nothing if only the last step leads nowhere. -/
  node : Option LinkedNode
  /-- How many more links may be followed. -/
  links : Nat

/-- Goes from a location along some steps, following at most `links` links. A link at the end is
    followed only if `follow` says so. -/
def walk (t : LinkedTree) (follow : Bool) (links : Nat) (place : Location) (path : List RawText) :
    Except SystemFault Arrival :=
  match path with
  | [] => .ok ⟨place, t.nodeAt? place, links⟩
  | step :: rest =>
    if t.nodeAt? place ≠ some .directory then .error .notDirectory
    else if step = "." then t.walk follow links place rest
    else if step = ".." then t.walk follow links place.dropLast rest
    else if nameLimit < step.bytes.length then .error .nameTooLong
    else
      match t.nodeAt? (place ++ [step]) with
      | none => if rest = [] then .ok ⟨place ++ [step], none, links⟩ else .error .noSuchFile
      | some (.link target) =>
        if rest = [] ∧ !follow then .ok ⟨place ++ [step], some (.link target), links⟩
        else match links with
          | 0 => .error .tooManyLinks
          | links + 1 => t.walk follow links (startFrom place target) (steps target ++ rest)
      | some _ => t.walk follow links (place ++ [step]) rest
termination_by (links, path.length)

/-- On no way does one gain links to follow. -/
theorem links_le_of_walk {t : LinkedTree} {follow : Bool} {links : Nat} {place : Location}
    {path : List RawText} {a : Arrival} (h : t.walk follow links place path = .ok a) :
    a.links ≤ links := by
  fun_induction walk t follow links place path with
  | case1 =>
    cases h
    exact Nat.le_refl _
  | case2 => cases h
  | case3 _ _ _ _ ih => exact ih h
  | case4 _ _ _ _ _ ih => exact ih h
  | case5 => cases h
  | case6 =>
    cases h
    exact Nat.le_refl _
  | case7 => cases h
  | case8 =>
    cases h
    exact Nat.le_refl _
  | case9 => cases h
  | case10 _ _ _ _ _ _ _ _ _ _ _ ih => exact Nat.le_succ_of_le (ih h)
  | case11 _ _ _ _ _ _ _ _ _ _ _ ih => exact ih h

/-- Refuses paths that no system call takes. -/
def checkPath (p : Path) : Except SystemFault Unit :=
  if p.raw.bytes.contains 0 then .error .nulInName
  else if p.raw = "" then .error .noSuchFile
  else if pathLimit ≤ p.raw.bytes.length then .error .nameTooLong
  else .ok ()

/-- Where a path leads and what is there. -/
def lookUp (t : LinkedTree) (follow : Bool) (p : Path) : Except SystemFault Arrival :=
  match checkPath p with
  | .error fault => .error fault
  | .ok () => t.walk follow linkLimit (startFrom t.workingDir p) (steps p)

/-- Where a path leads and what is there, if something is. -/
def find (t : LinkedTree) (follow : Bool) (p : Path) : Except SystemFault (Location × LinkedNode) :=
  match t.lookUp follow p with
  | .error fault => .error fault
  | .ok a =>
    match a.node with
    | none => .error .noSuchFile
    | some node => .ok (a.place, node)

/-! ## The operations of a storage -/

/-- Whether something is at a path. -/
def contains (t : LinkedTree) (p : Path) : Bool :=
  match t.find true p with
  | .ok _ => true
  | .error _ => false

/-- Whether a path leads to a directory. -/
def isDirectory (t : LinkedTree) (p : Path) : Bool :=
  match t.find true p with
  | .ok (_, .directory) => true
  | _ => false

/-- The bytes of the file that a path leads to. -/
def read (t : LinkedTree) (p : Path) : Except StorageFault Bytes :=
  match t.find true p with
  | .ok (_, .file bytes) => .ok bytes
  | .ok _ => .error (.readFailed p .isDirectory)
  | .error fault => .error (.readFailed p fault)

/-- A node as an entry of the directory at `dir`, if it lies directly in `place`. -/
def listed? (dir : Path) (place : Location) (node : Location × LinkedNode) : Option DirEntry :=
  match node.1.getLast? with
  | some name => if node.1.dropLast = place then some ⟨dir / name, name.text, node.2.type⟩ else none
  | none => none

/-- The entries of the directory that a path leads to. -/
def entriesOf (t : LinkedTree) (p : Path) : Except StorageFault (List DirEntry) :=
  match t.find true p with
  | .ok (place, .directory) => .ok (t.nodes.filterMap (listed? p place))
  | .ok _ => .error (.listFailed p .notDirectory)
  | .error fault => .error (.listFailed p fault)

/-- The paths from `p`, which leads to `place`, of the directories below. -/
def directoriesBelow (t : LinkedTree) (p : Path) (place : Location) : List Path :=
  (t.nodes.filter fun e =>
    e.2 = .directory && place.isPrefixOf e.1 && place.length < e.1.length).map fun e =>
      (e.1.drop place.length).foldl (· / ·) p

/-- Whether a path names the standard input, which a walk does not enter. -/
def isStandardInput (p : Path) : Bool := p.components = [.name "-"]

/-- The directories at and below a path. Links are not followed, except for one that the path itself
    leads to, and that one is not among the directories. -/
def directories (t : LinkedTree) (p : Path) : Except StorageFault (List Path) :=
  if isStandardInput p then .ok []
  else match t.find false p with
    | .error fault => .error (.walkFailed p fault)
    | .ok (place, .directory) => .ok (p :: t.directoriesBelow p place)
    | .ok (_, .file _) => .ok []
    | .ok (_, .link _) =>
      match t.find true p with
      | .error fault => .error (.walkFailed p fault)
      | .ok (place, .directory) => .ok (t.directoriesBelow p place)
      | .ok _ => .ok []

/-- Whether a path can only lead to a directory, because it ends in a slash or in dots. -/
def asksDirectory (p : Path) : Bool :=
  endsInSlash p || (names p).getLast? = some "." || (names p).getLast? = some ".."

/-- Why nothing can be written at a path that can only lead to a directory, given how the way to its
    last name ends. -/
def directoryFault (a : Arrival) : SystemFault :=
  match a.node with
  | some .directory => .isDirectory
  | some _ => .notDirectory
  | none => .noSuchFile

/-- The location at which a file goes that is written to a path, seen from a directory. A link at
    the end leads on to its target, which is read like the path itself: if it can only lead to a
    directory, it is refused once the way to it is known to exist. -/
def locationFrom (t : LinkedTree) (links : Nat) (place : Location) (p : Path) :
    Except SystemFault Location :=
  if asksDirectory p then
    match t.walk true links (startFrom place p) (names p).dropLast with
    | .error fault => .error fault
    | .ok a => .error (directoryFault a)
  else
    match _h : t.walk false links (startFrom place p) (names p) with
    | .error fault => .error fault
    | .ok a =>
      match a.node with
      | some .directory => .error .isDirectory
      | some (.link target) =>
        match _hl : a.links with
        | 0 => .error .tooManyLinks
        | left + 1 => t.locationFrom left a.place.dropLast target
      | _ => .ok a.place
termination_by links
decreasing_by have := links_le_of_walk _h; omega

/-- The location at which a file goes that is written to a path. -/
def fileLocation (t : LinkedTree) (p : Path) : Except SystemFault Location :=
  match checkPath p with
  | .error fault => .error fault
  | .ok () => t.locationFrom linkLimit t.workingDir p

/-- Writes bytes to a file, in the place of what it held before. -/
def writeBytes (t : LinkedTree) (p : Path) (bytes : Bytes) : Except StorageFault LinkedTree :=
  match t.fileLocation p with
  | .ok place => .ok (t.put place (.file bytes))
  | .error fault => .error (.writeFailed p fault)

/-- Writes a file, in the place of what it held before. -/
def write (t : LinkedTree) (p : Path) (text : String) : Except StorageFault LinkedTree :=
  t.writeBytes p (Utf8.encode text)

/-- The linked tree as a storage. -/
def storage : Storage LinkedTree where
  contains := contains
  isDirectory := isDirectory
  read := read
  entries := entriesOf
  directories := directories
  write := write

/-! ## Building a tree -/

/-- Adds a node where a path leads, if nothing is there and the directory that is to hold it is. -/
def addNode (t : LinkedTree) (p : Path) (node : LinkedNode) : LinkedTree :=
  match t.lookUp true p with
  | .ok a => if a.node = none then t.put a.place node else t
  | .error _ => t

/-- Adds a directory, and those above it. -/
def addDirectory (t : LinkedTree) (p : Path) : LinkedTree :=
  p.ancestry.foldl (fun t p => t.addNode p .directory) t

/-- The tree with the directories above a path. -/
def addParents (t : LinkedTree) (p : Path) : LinkedTree :=
  ((Path.extensions ⟨""⟩ p.components.dropLast).foldl fun t p => t.addNode p .directory) t

/-- Adds a file, in the place of what was there, and the directories above it. -/
def addFile (t : LinkedTree) (p : Path) (bytes : Bytes) : Except StorageFault LinkedTree :=
  (t.addParents p).writeBytes p bytes

/-- Adds a link, and the directories above it. -/
def addLink (t : LinkedTree) (p target : Path) : LinkedTree := (t.addParents p).addNode p (.link target)

/-! ## Look-up after a change -/

theorem find?_putNode {place other : Location} {node : LinkedNode}
    {nodes : List (Location × LinkedNode)} :
    ((putNode place node nodes).find? (·.1 = other)).map (·.2) =
      if place = other then some node else (nodes.find? (·.1 = other)).map (·.2) := by
  induction nodes with
  | nil => by_cases h : place = other <;> simp [putNode, h]
  | cons d rest ih =>
    rw [putNode]
    split
    · rename_i hd
      by_cases h : place = other
      · simp [h]
      · have : ¬ d.1 = other := hd ▸ h
        simp [h, this]
    · rename_i hd
      by_cases ho : d.1 = other
      · have : ¬ place = other := fun h => hd (ho.trans h.symm)
        simp [ho, this]
      · simp only [List.find?_cons, ho, decide_false]
        exact ih

/-- A node that is put below the top is found at its location, and what was there elsewhere. -/
theorem nodeAt?_put {t : LinkedTree} {place other : Location} {node : LinkedNode}
    (h : place ≠ []) :
    (t.put place node).nodeAt? other = if place = other then some node else t.nodeAt? other := by
  unfold nodeAt?
  by_cases ho : other = []
  · simp [ho, h]
  · simp only [if_neg ho]
    exact find?_putNode

end LinkedTree

end VendorBuild
