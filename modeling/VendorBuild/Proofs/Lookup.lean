import VendorBuild.Proofs.Trees

/-!
# Looking up names below a directory

A path that goes on behind one that leads to a directory is looked up from that directory. Where
only directories and files lie below it, under names that the operating system takes, names lead to
what they stand for: no dots lead back and no links lead elsewhere. So a linked tree shows the tree
that lies below a directory, and a file that is written there goes where its names say.

Results:
* `LinkedTree.walk_append`: a way that goes on behind a directory starts from there.
* `LinkedTree.Reaches.walk_eq`: where names behind a path that leads to a directory lead.
* `LinkedTree.Reaches.fileLocation_eq`: where a file goes that is written there.
* `LinkedTree.Hosts.shows`: a linked tree shows the tree below a directory.
-/

namespace VendorBuild

/-! ## Names behind a path -/

namespace Path

/-- The path of some names behind a path. -/
def descend (p : Path) (place : Location) : Path := place.foldl (· / ·) p

variable {p : Path} {place : Location} {name : RawText}

theorem descend_append (p : Path) (place more : Location) :
    p.descend (place ++ more) = (p.descend place).descend more := List.foldl_append

theorem isAbsolute_slash (hn : IsPlainName name) : (p / name).isAbsolute = p.isAbsolute := by
  have hname := isAbsolute_of_notMem hn.slash_notMem
  rw [slash_def]
  by_cases hempty : p.raw = ""
  · rw [join_of_raw_eq_empty hempty, hname, isAbsolute, hempty]
    rfl
  · obtain ⟨-, hstart, -⟩ := components_join_of_ne_empty hempty hname
    rw [Bool.eq_iff_iff, isAbsolute_iff_start, isAbsolute_iff_start, hstart]

/-- A name behind a path is a segment of its own, whether or not a slash had to be put between. -/
theorem exists_segments_slash (hn : IsPlainName name) :
    ∃ front, (p / name).raw.segments = front ++ [name] ∧
      (p.raw.segments = front ∨ p.raw.segments = front ++ [("" : RawText)]) := by
  have hname := isAbsolute_of_notMem hn.slash_notMem
  have hlast := RawText.segments_of_notMem hn.slash_notMem
  rw [slash_def]
  by_cases hempty : p.raw = ""
  · refine ⟨[], ?_, .inr ?_⟩
    · rw [join_of_raw_eq_empty hempty]
      exact hlast
    · rw [hempty]
      decide
  · obtain ⟨front, hjoin, hfront⟩ := exists_join_eq hempty hname
    refine ⟨front.segments, ?_, ?_⟩
    · rw [hjoin, RawText.segments_append_slash, hlast]
    · obtain hslash | hplain := hfront
      · exact .inr (by rw [hslash, RawText.segments_slash_end])
      · exact .inl (by rw [hplain])

theorem start_slash (hn : IsPlainName name) : (p / name).start = p.start := by
  obtain ⟨front, hsegments, hp⟩ := exists_segments_slash (p := p) hn
  rw [start, start, isAbsolute_slash hn, hsegments]
  cases front with
  | nil => obtain hp | hp := hp <;> simp [hp, hn.ne_here]
  | cons first rest => obtain hp | hp := hp <;> simp [hp]

theorem components_slash (hn : IsPlainName name) :
    (p / name).components = p.components ++ [.name name] := by
  obtain ⟨front, hsegments, hp⟩ := exists_segments_slash (p := p) hn
  have hempty : Component.ofSegment? "" = none := if_pos (.inl rfl)
  rw [components, components, start_slash hn, hsegments]
  obtain hp | hp := hp <;>
    simp [hp, Component.ofSegment?_of_isPlainName hn, hempty]

theorem components_descend (h : ∀ name ∈ place, IsPlainName name) :
    (p.descend place).components = p.components ++ place.map .name := by
  induction place generalizing p with
  | nil => simp [descend]
  | cons first rest ih =>
    obtain ⟨hfirst, hrest⟩ := List.forall_mem_cons.1 h
    have hnext : p.descend (first :: rest) = (p / first).descend rest := rfl
    rw [hnext, ih hrest, components_slash hfirst]
    simp

end Path

namespace LinkedTree

variable {p : Path} {place : Location} {name : RawText}

theorem names_slash (hn : IsPlainName name) : names (p / name) = names p ++ [name] := by
  obtain ⟨front, hsegments, hp⟩ := Path.exists_segments_slash (p := p) hn
  rw [names, names, hsegments]
  obtain hp | hp := hp <;> simp [hp, hn.ne_empty]

theorem endsInSlash_slash (hn : IsPlainName name) : endsInSlash (p / name) = false := by
  have hlast : ∀ front : RawText, (front ++ name).bytes.getLast? ≠ some RawText.slash := by
    intro front hend
    rw [RawText.bytes_append, List.getLast?_append_of_ne_nil _ (Path.bytes_ne_nil hn.ne_empty)]
      at hend
    exact hn.slash_notMem (List.mem_of_getLast? hend)
  have hname := Path.isAbsolute_of_notMem hn.slash_notMem
  rw [endsInSlash, Path.slash_def, Path.join, if_neg (by simp [hname])]
  split
  · exact decide_eq_false (hlast _)
  · exact decide_eq_false (hlast _)

theorem names_descend (h : ∀ name ∈ place, IsPlainName name) :
    names (p.descend place) = names p ++ place := by
  induction place generalizing p with
  | nil => simp [Path.descend]
  | cons first rest ih =>
    obtain ⟨hfirst, hrest⟩ := List.forall_mem_cons.1 h
    have hnext : p.descend (first :: rest) = (p / first).descend rest := rfl
    rw [hnext, ih hrest, names_slash hfirst]
    simp

theorem startFrom_descend {start : Location} (h : ∀ name ∈ place, IsPlainName name) :
    startFrom start (p.descend place) = startFrom start p := by
  induction place generalizing p with
  | nil => rfl
  | cons first rest ih =>
    obtain ⟨hfirst, hrest⟩ := List.forall_mem_cons.1 h
    have hnext : p.descend (first :: rest) = (p / first).descend rest := rfl
    rw [hnext, ih hrest, startFrom, startFrom, Path.isAbsolute_slash hfirst]

theorem descend_concat (p : Path) (front : Location) (name : RawText) :
    p.descend (front ++ [name]) = p.descend front / name := Path.descend_append p front [name]

/-! ## Ways -/

variable {t : LinkedTree} {follow : Bool} {links left : Nat} {base front : Location}

/-- A way that goes on behind a directory starts from there. -/
theorem walk_append {follow' : Bool} {xs ys : List RawText} {arrived : Location}
    (h : t.walk follow' links place xs = .ok ⟨arrived, some .directory, left⟩) (hne : ys ≠ []) :
    t.walk follow links place (xs ++ ys) = t.walk follow left arrived ys := by
  fun_induction walk t follow' links place xs with
  | case1 =>
    simp only [Except.ok.injEq, Arrival.mk.injEq] at h
    rw [h.1, h.2.2]
    rfl
  | case2 | case5 | case6 | case7 | case8 | case9 => cases h
  | case3 _ _ _ hdir ih => rw [List.cons_append, walk, if_neg hdir, if_pos rfl, ih h]
  | case4 _ _ _ hdir hdot ih =>
    rw [List.cons_append, walk, if_neg hdir, if_neg hdot, if_pos rfl, ih h]
  | case10 _ _ _ hdir hdot hup hlong _ hnode _ _ ih =>
    rw [List.cons_append, walk, if_neg hdir, if_neg hdot, if_neg hup, if_neg hlong, hnode]
    simp [hne, ← ih h]
  | case11 _ _ _ _ hdir hdot hup hlong _ hother hnode ih =>
    rw [List.cons_append, walk, if_neg hdir, if_neg hdot, if_neg hup, if_neg hlong, hnode]
    simp [ih h]

theorem walk_directory {rest : List RawText} (hbase : t.nodeAt? base = some .directory)
    (hn : IsPlainName name) (hlength : name.bytes.length ≤ nameLimit)
    (hnode : t.nodeAt? (base ++ [name]) = some .directory) :
    t.walk follow links base (name :: rest) = t.walk follow links (base ++ [name]) rest := by
  rw [walk, if_neg (by simp [hbase]), if_neg hn.ne_here, if_neg hn.ne_up,
    if_neg (Nat.not_lt.2 hlength), hnode]

/-- A last step arrives at what it names, which may be nothing. -/
theorem walk_last (hbase : t.nodeAt? base = some .directory) (hn : IsPlainName name)
    (hlength : name.bytes.length ≤ nameLimit)
    (hnode : ∀ target, t.nodeAt? (base ++ [name]) ≠ some (.link target)) :
    t.walk follow links base [name] =
      .ok ⟨base ++ [name], t.nodeAt? (base ++ [name]), links⟩ := by
  rw [walk, if_neg (by simp [hbase]), if_neg hn.ne_here, if_neg hn.ne_up,
    if_neg (Nat.not_lt.2 hlength)]
  split
  · rename_i hnone
    rw [if_pos rfl, hnone]
  · rename_i target hlink
    exact absurd hlink (hnode target)
  · rw [walk]

/-- A last step that names nothing arrives at nothing, if anywhere. -/
theorem walk_nothing (hbase : t.nodeAt? base = some .directory) (hn : IsPlainName name)
    (hnone : t.nodeAt? (base ++ [name]) = none) (follow : Bool) (links : Nat) :
    (∃ fault, t.walk follow links base [name] = .error fault) ∨
      t.walk follow links base [name] = .ok ⟨base ++ [name], none, links⟩ := by
  by_cases hlength : name.bytes.length ≤ nameLimit
  · right
    rw [walk_last hbase hn hlength (by simp [hnone]), hnone]
  · left
    rw [walk, if_neg (by simp [hbase]), if_neg hn.ne_here, if_neg hn.ne_up,
      if_pos (Nat.lt_of_not_le hlength)]
    exact ⟨_, rfl⟩

theorem walk_directories {rest : List RawText}
    (hdirs : ∀ part, part <+: front → t.nodeAt? (base ++ part) = some .directory)
    (hplain : ∀ n ∈ front, IsPlainName n ∧ n.bytes.length ≤ nameLimit) :
    t.walk follow links base (front ++ rest) = t.walk follow links (base ++ front) rest := by
  induction front generalizing base with
  | nil => simp
  | cons first more ih =>
    obtain ⟨⟨hn, hlength⟩, hmore⟩ := List.forall_mem_cons.1 hplain
    have hbase := hdirs [] List.nil_prefix
    rw [List.append_nil] at hbase
    rw [List.cons_append, walk_directory hbase hn hlength (hdirs [first] (by simp)), ih _ hmore]
    · simp
    · intro part hpart
      rw [List.append_assoc]
      exact hdirs (first :: part) (by simpa using hpart)

theorem walk_names (hdirs : ∀ part, part <+: front → t.nodeAt? (base ++ part) = some .directory)
    (hplain : ∀ n ∈ front ++ [name], IsPlainName n ∧ n.bytes.length ≤ nameLimit)
    (hnode : ∀ target, t.nodeAt? (base ++ (front ++ [name])) ≠ some (.link target)) :
    t.walk follow links base (front ++ [name]) =
      .ok ⟨base ++ (front ++ [name]), t.nodeAt? (base ++ (front ++ [name])), links⟩ := by
  obtain ⟨hn, hlength⟩ := hplain name (by simp)
  rw [← List.append_assoc] at hnode ⊢
  rw [walk_directories hdirs fun n hmem => hplain n (List.mem_append_left _ hmem)]
  exact walk_last (hdirs front List.prefix_rfl) hn hlength hnode

/-! ## Paths behind one that leads to a directory -/

/-- Whether a path leads to a directory at a location. -/
def Reaches (t : LinkedTree) (p : Path) (base : Location) : Prop :=
  ∃ left, t.walk true linkLimit (startFrom t.workingDir p) (names p) =
    .ok ⟨base, some .directory, left⟩

/-- Whether the operating system takes a path. -/
structure Accepts (p : Path) : Prop where
  path : checkPath p = .ok ()
  names : ∀ name ∈ names p, name.bytes.length ≤ nameLimit

instance (p : Path) : Decidable (Accepts p) :=
  decidable_of_iff (checkPath p = .ok () ∧
      ((LinkedTree.names p).all fun name => decide (name.bytes.length ≤ nameLimit)) = true)
    ⟨fun h => ⟨h.1, by simpa using h.2⟩, fun h => ⟨h.path, by simpa using h.names⟩⟩

theorem nodeAt?_arrived {path : List RawText} {arrived : Location}
    (h : t.walk follow links place path = .ok ⟨arrived, some .directory, left⟩) :
    t.nodeAt? arrived = some .directory := by
  fun_induction walk t follow links place path with
  | case1 =>
    simp only [Except.ok.injEq, Arrival.mk.injEq] at h
    rw [← h.1, h.2.1]
  | case2 | case5 | case6 | case7 | case8 | case9 => cases h
  | case3 _ _ _ _ ih | case4 _ _ _ _ _ ih => exact ih h
  | case10 _ _ _ _ _ _ _ _ _ _ _ ih | case11 _ _ _ _ _ _ _ _ _ _ _ ih => exact ih h

theorem Reaches.nodeAt? (h : t.Reaches p base) : t.nodeAt? base = some .directory := by
  obtain ⟨left, h⟩ := h
  exact nodeAt?_arrived h

/-- A way along some names behind a path that leads to a directory starts from there. -/
theorem Reaches.walk_descend {path : Location} (h : t.Reaches p base)
    (hplain : ∀ n ∈ path, IsPlainName n) (hne : path ≠ []) (follow : Bool) :
    ∃ left, t.walk follow linkLimit (startFrom t.workingDir (p.descend path))
      (names (p.descend path)) = t.walk follow left base path := by
  obtain ⟨left, h⟩ := h
  refine ⟨left, ?_⟩
  rw [startFrom_descend hplain, names_descend hplain]
  exact walk_append h hne

theorem steps_descend_concat (hn : IsPlainName name) :
    steps (p.descend (front ++ [name])) = names (p.descend (front ++ [name])) := by
  rw [steps, descend_concat, endsInSlash_slash hn]
  simp

theorem Reaches.walk_eq (h : t.Reaches p base) (haccepts : Accepts (p.descend (front ++ [name])))
    (hplain : ∀ n ∈ front ++ [name], IsPlainName n)
    (hdirs : ∀ part, part <+: front → t.nodeAt? (base ++ part) = some .directory)
    (hnode : ∀ target, t.nodeAt? (base ++ (front ++ [name])) ≠ some (.link target))
    (follow : Bool) :
    ∃ left, t.walk follow linkLimit (startFrom t.workingDir (p.descend (front ++ [name])))
      (names (p.descend (front ++ [name]))) =
        .ok ⟨base ++ (front ++ [name]), t.nodeAt? (base ++ (front ++ [name])), left⟩ := by
  obtain ⟨left, hwalk⟩ := h.walk_descend hplain (by simp) follow
  have hnames : ∀ n ∈ front ++ [name], IsPlainName n ∧ n.bytes.length ≤ nameLimit := by
    intro n hmem
    refine ⟨hplain n hmem, haccepts.names n ?_⟩
    rw [names_descend hplain]
    exact List.mem_append_right _ hmem
  rw [walk_names hdirs hnames hnode] at hwalk
  exact ⟨left, hwalk⟩

/-! ### Writing -/

theorem asksDirectory_descend_concat (hplain : ∀ n ∈ front ++ [name], IsPlainName n) :
    asksDirectory (p.descend (front ++ [name])) = false := by
  have hn : IsPlainName name := hplain name (by simp)
  have hlast : (names (p.descend (front ++ [name]))).getLast? = some name := by
    rw [names_descend hplain, ← List.append_assoc, List.getLast?_concat]
  rw [asksDirectory, hlast, descend_concat, endsInSlash_slash hn]
  simp [hn.ne_here, hn.ne_up]

/-- A file goes where its path leads, if nothing but a file is there. -/
theorem locationFrom_of_walk {a : Arrival} (hasks : asksDirectory p = false)
    (h : t.walk false links (startFrom place p) (names p) = .ok a)
    (hfile : ∀ node, a.node = some node → ∃ bytes, node = .file bytes) :
    t.locationFrom links place p = .ok a.place := by
  rw [locationFrom, if_neg (by simp [hasks])]
  split
  · rename_i fault hfault
    rw [h] at hfault
    cases hfault
  · rename_i other hok
    rw [h] at hok
    cases hok
    cases hnode : a.node with
    | none => rfl
    | some node =>
      obtain ⟨bytes, rfl⟩ := hfile node hnode
      rfl

theorem locationFrom_of_walk_error {fault : SystemFault} (hasks : asksDirectory p = false)
    (h : t.walk false links (startFrom place p) (names p) = .error fault) :
    t.locationFrom links place p = .error fault := by
  rw [locationFrom, if_neg (by simp [hasks])]
  split
  · rename_i other hother
    rw [h] at hother
    cases hother
    rfl
  · rename_i a hok
    rw [h] at hok
    cases hok

/-- A file goes to the location that its names stand for. -/
theorem Reaches.fileLocation_eq (h : t.Reaches p base)
    (haccepts : Accepts (p.descend (front ++ [name])))
    (hplain : ∀ n ∈ front ++ [name], IsPlainName n)
    (hdirs : ∀ part, part <+: front → t.nodeAt? (base ++ part) = some .directory)
    (hfile : ∀ node, t.nodeAt? (base ++ (front ++ [name])) = some node →
      ∃ bytes, node = .file bytes) :
    t.fileLocation (p.descend (front ++ [name])) = .ok (base ++ (front ++ [name])) := by
  have hnode : ∀ target, t.nodeAt? (base ++ (front ++ [name])) ≠ some (.link target) := by
    intro target hlink
    obtain ⟨bytes, hbytes⟩ := hfile _ hlink
    cases hbytes
  obtain ⟨left, hwalk⟩ := h.walk_eq haccepts hplain hdirs hnode false
  rw [fileLocation, haccepts.path]
  exact locationFrom_of_walk (asksDirectory_descend_concat hplain) hwalk hfile

/-- A name that is too long is not looked up. -/
theorem Reaches.fileLocation_of_tooLong (h : t.Reaches p base)
    (hpath : checkPath (p.descend (front ++ [name])) = .ok ())
    (hplain : ∀ n ∈ front ++ [name], IsPlainName n)
    (hshort : ∀ n ∈ front, n.bytes.length ≤ nameLimit) (hlong : nameLimit < name.bytes.length)
    (hdirs : ∀ part, part <+: front → t.nodeAt? (base ++ part) = some .directory) :
    t.fileLocation (p.descend (front ++ [name])) = .error .nameTooLong := by
  have hn : IsPlainName name := hplain name (by simp)
  obtain ⟨left, hwalk⟩ := h.walk_descend hplain (by simp) false
  rw [walk_directories hdirs fun n hmem => ⟨hplain n (List.mem_append_left _ hmem), hshort n hmem⟩,
    walk, if_neg (by simp [hdirs front List.prefix_rfl]), if_neg hn.ne_here, if_neg hn.ne_up,
    if_pos hlong] at hwalk
  rw [fileLocation, hpath]
  exact locationFrom_of_walk_error (asksDirectory_descend_concat hplain) hwalk

theorem nodeAt?_of_walk {path : List RawText} {arrived : Location}
    (h : t.walk follow links place path = .ok ⟨arrived, some .directory, left⟩) :
    t.nodeAt? place = some .directory := by
  cases path with
  | nil =>
    simp only [walk, Except.ok.injEq, Arrival.mk.injEq] at h
    exact h.2.1
  | cons step rest =>
    by_contra hdir
    rw [walk, if_pos hdir] at h
    cases h

/-- A file that takes the place of nothing but a file is on no way to a directory. -/
theorem walk_put {location : Location} {path : List RawText} {arrived : Location} {bytes : Bytes}
    (hne : location ≠ [])
    (hfile : ∀ node, t.nodeAt? location = some node → ∃ bytes, node = .file bytes)
    (h : t.walk follow links place path = .ok ⟨arrived, some .directory, left⟩) :
    (t.put location (.file bytes)).walk follow links place path =
      .ok ⟨arrived, some .directory, left⟩ := by
  have hkeep : ∀ place node, t.nodeAt? place = some node → (∀ bytes, node ≠ .file bytes) →
      (t.put location (.file bytes)).nodeAt? place = some node := by
    intro place node hat hother
    rw [nodeAt?_put hne, if_neg, hat]
    rintro rfl
    obtain ⟨bytes, rfl⟩ := hfile node hat
    exact hother bytes rfl
  fun_induction walk t follow links place path with
  | case1 =>
    simp only [Except.ok.injEq, Arrival.mk.injEq] at h
    rw [walk, hkeep _ _ h.2.1 (by simp), h.1, h.2.2]
  | case2 | case5 | case6 | case7 | case8 | case9 => cases h
  | case3 _ _ _ hdir ih =>
    rw [walk, if_neg (by simp [hkeep _ _ (not_not.1 hdir)]), if_pos rfl, ih h]
  | case4 _ _ _ hdir hdot ih =>
    rw [walk, if_neg (by simp [hkeep _ _ (not_not.1 hdir)]), if_neg hdot, if_pos rfl, ih h]
  | case10 _ _ _ hdir hdot hup hlong _ hnode hlast _ ih =>
    rw [walk, if_neg (by simp [hkeep _ _ (not_not.1 hdir)]), if_neg hdot, if_neg hup,
      if_neg hlong, hkeep _ _ hnode (by simp)]
    simp only [if_neg hlast]
    exact ih h
  | case11 _ _ _ _ hdir hdot hup hlong _ hother hnode ih =>
    have hnext := hkeep _ _ (nodeAt?_of_walk h) (by simp)
    rw [walk, if_neg (by simp [hkeep _ _ (not_not.1 hdir)]), if_neg hdot, if_neg hup,
      if_neg hlong, hnext]
    exact ih h

theorem Reaches.put {location : Location} (h : t.Reaches p base) (hne : location ≠ [])
    (hfile : ∀ node, t.nodeAt? location = some node → ∃ bytes, node = .file bytes)
    (bytes : Bytes) : (t.put location (.file bytes)).Reaches p base := by
  obtain ⟨left, h⟩ := h
  exact ⟨left, walk_put hne hfile h⟩

end LinkedTree

/-! ## Showing a tree -/

/-- A node of a tree of names as one of a linked tree. -/
def FlatNode.linked : FlatNode → LinkedNode
  | directory => .directory
  | file bytes => .file bytes

@[simp] theorem FlatNode.type_linked (node : FlatNode) : node.linked.type = node.type := by
  cases node <;> rfl

theorem FlatNode.linked_ne_link (node : FlatNode) (target : Path) :
    node.linked ≠ .link target := by
  cases node <;> simp [linked]

theorem FlatNode.linked_injective : Function.Injective FlatNode.linked := by
  intro node node' h
  cases node <;> cases node' <;> simp_all [linked]

namespace LinkedTree

/-- A storage of linked trees that lists entries and directories in an order of its own. -/
structure UpToOrder (fs : Storage LinkedTree) : Prop where
  contains : fs.contains = LinkedTree.contains
  isDirectory : fs.isDirectory = LinkedTree.isDirectory
  read : fs.read = LinkedTree.read
  write : fs.write = LinkedTree.write
  entries : ∀ t p, SameUpToOrder (entriesOf t p) (fs.entries t p)
  directories : ∀ t p, SameUpToOrder (LinkedTree.directories t p) (fs.directories t p)

theorem upToOrder_storage : UpToOrder storage :=
  ⟨rfl, rfl, rfl, rfl, fun _ _ => .refl _, fun _ _ => .refl _⟩

/-- Whether a tree, and nothing else, lies below the directory at a location to which a path leads,
and the operating system takes the paths of all that is in it. -/
structure Hosts (t : LinkedTree) (T : NameTree) (root : Path) (base : Location) : Prop where
  reaches : t.Reaches root base
  node : ∀ place, t.nodeAt? (base ++ place) = (T.node? place).map FlatNode.linked
  accepts : ∀ place node, place ≠ [] → T.node? place = some node → Accepts (root.descend place)

variable {t : LinkedTree} {T : NameTree} {fs : Storage LinkedTree} {root dir : Path}
  {base place names : Location} {name top : RawText} {node : FlatNode}

theorem nodeAt?_eq_some_iff {node : LinkedNode} (hne : place ≠ []) :
    t.nodeAt? place = some node ↔ (place, node) ∈ t.nodes := by
  rw [nodeAt?, if_neg hne, map_find?_eq_some_iff t.distinct]

theorem mem_directoriesBelow_iff {p : Path} :
    dir ∈ t.directoriesBelow p place ↔ ∃ names, names ≠ [] ∧
      t.nodeAt? (place ++ names) = some .directory ∧ p.descend names = dir := by
  simp only [directoriesBelow, List.mem_map, List.mem_filter, Bool.and_eq_true, decide_eq_true_eq,
    List.isPrefixOf_iff_prefix]
  constructor
  · rintro ⟨⟨_, node⟩, ⟨hmem, ⟨rfl, ⟨names, rfl⟩⟩, hlength⟩, rfl⟩
    have hne : names ≠ [] := by
      rintro rfl
      simp at hlength
    refine ⟨names, hne, (nodeAt?_eq_some_iff (by simp [hne])).2 hmem, ?_⟩
    rw [List.drop_left]
    rfl
  · rintro ⟨names, hne, hat, rfl⟩
    refine ⟨_, ⟨(nodeAt?_eq_some_iff (by simp [hne])).1 hat, ⟨rfl, List.prefix_append ..⟩, ?_⟩, ?_⟩
    · simpa using List.length_pos_iff.2 hne
    · rw [List.drop_left]
      rfl

theorem contains_eq (t : LinkedTree) (p : Path) :
    t.contains p = ((t.find true p).toOption.map (·.2)).isSome := by
  rw [LinkedTree.contains]
  cases t.find true p <;> rfl

theorem isDirectory_eq (t : LinkedTree) (p : Path) :
    t.isDirectory p = decide ((t.find true p).toOption.map (·.2) = some .directory) := by
  rw [LinkedTree.isDirectory]
  cases t.find true p with
  | error fault => rfl
  | ok found =>
    obtain ⟨place, node⟩ := found
    cases node <;> simp [Except.toOption]

theorem map_linked_eq_directory_iff {node : Option FlatNode} :
    node.map FlatNode.linked = some .directory ↔ node = some .directory := by
  rw [← show FlatNode.linked .directory = .directory from rfl, ← Option.map_some,
    (Option.map_injective FlatNode.linked_injective).eq_iff]

namespace Hosts

theorem directories (h : t.Hosts T root base) (hplace : T.node? place = some .directory) :
    ∀ part, part <+: place → t.nodeAt? (base ++ part) = some .directory := by
  intro part hpart
  rw [h.node, NameTree.directory_of_prefix hplace hpart]
  rfl

/-- A path of names leads to the node of the tree that the names stand for. -/
theorem find (h : t.Hosts T root base) (hnode : T.node? place = some node) (hne : place ≠ [])
    (follow : Bool) : t.find follow (root.descend place) = .ok (base ++ place, node.linked) := by
  obtain ⟨front, name, rfl⟩ : ∃ front name, place = front ++ [name] :=
    ⟨_, _, (List.dropLast_append_getLast hne).symm⟩
  have hat := h.node (front ++ [name])
  rw [hnode] at hat
  have hdirs := h.directories (NameTree.node?_parent hnode)
  obtain ⟨left, hwalk⟩ := h.reaches.walk_eq (h.accepts _ _ hne hnode)
    (NameTree.plain_of_node? hnode) hdirs (by simp [hat, FlatNode.linked_ne_link]) follow
  have hlast : IsPlainName name := NameTree.plain_of_node? hnode name (by simp)
  rw [LinkedTree.find, lookUp, (h.accepts _ _ hne hnode).path, steps_descend_concat hlast]
  simp only [hwalk, hat]
  rfl

theorem find_nothing (h : t.Hosts T root base) (hn : IsPlainName name)
    (hnone : T.node? [name] = none) (follow : Bool) :
    ∃ fault, t.find follow (root.descend [name]) = .error fault := by
  have hat := h.node [name]
  rw [hnone] at hat
  have hplain : ∀ n ∈ [name], IsPlainName n := by simpa using hn
  obtain ⟨left, hwalk⟩ := h.reaches.walk_descend hplain (by simp) follow
  have hsteps : steps (root.descend ([] ++ [name])) = names (root.descend ([] ++ [name])) :=
    steps_descend_concat hn
  rw [List.nil_append] at hsteps
  rw [LinkedTree.find, lookUp, hsteps, hwalk]
  cases checkPath (root.descend [name]) with
  | error fault => exact ⟨fault, rfl⟩
  | ok _ =>
    obtain ⟨fault, hfault⟩ | hnothing := walk_nothing h.reaches.nodeAt? hn hat follow left
    · simp only [hfault]
      exact ⟨fault, rfl⟩
    · simp only [hnothing]
      exact ⟨_, rfl⟩

/-- A name leads to what is under it in the tree, if anything is. -/
theorem map_find (h : t.Hosts T root base) (hn : IsPlainName name) (follow : Bool) :
    (t.find follow (root / name)).toOption.map (·.2) = (T.node? [name]).map FlatNode.linked := by
  have hdescend : root / name = root.descend [name] := rfl
  cases hnode : T.node? [name] with
  | none =>
    obtain ⟨fault, hfault⟩ := h.find_nothing hn hnode follow
    rw [hdescend, hfault]
    rfl
  | some node =>
    rw [hdescend, h.find hnode (by simp) follow]
    rfl

variable {steps : Location}

/-- An entry that has the name and the type of a node is that of the node. -/
theorem listsNode {type : EntryType} (h : t.Hosts T root base) (hfs : UpToOrder fs)
    (hnode : T.node? (place ++ [name]) = some node) (htype : type = node.type) :
    ListsNode fs t name node ⟨root.descend place / name, name.text, type⟩ := by
  refine ⟨rfl, htype, fun bytes hbytes => ?_⟩
  have hfind := h.find hnode (by simp) true
  rw [descend_concat, hbytes] at hfind
  rw [hfs.read, LinkedTree.read, hfind]
  rfl

/-- What a directory of the tree lists. -/
theorem listsPlace {entries : List DirEntry} (h : t.Hosts T root base) (hfs : UpToOrder fs)
    (hentries : ∀ d, d ∈ entries ↔
      ∃ e ∈ t.nodes, listed? (root.descend place) (base ++ place) e = some d) :
    ListsPlace fs t T place entries := by
  constructor
  · intro d hd
    obtain ⟨e, he, hlisted⟩ := (hentries d).1 hd
    unfold listed? at hlisted
    split at hlisted
    · rename_i name hlast
      split at hlisted
      · rename_i hfront
        obtain ⟨front, hplace⟩ := List.getLast?_eq_some_iff.1 hlast
        rw [hplace, List.dropLast_concat] at hfront
        rw [hfront, List.append_assoc] at hplace
        have hat := h.node (place ++ [name])
        rw [← hplace, (nodeAt?_eq_some_iff (by simp [hplace])).2 he] at hat
        obtain ⟨node, hnode, hlinked⟩ := Option.map_eq_some_iff.1 hat.symm
        cases hlisted
        exact ⟨name, node, hnode, h.listsNode hfs hnode (by rw [← hlinked, FlatNode.type_linked])⟩
      · cases hlisted
    · cases hlisted
  · intro name node hnode
    have hat := h.node (place ++ [name])
    rw [hnode, ← List.append_assoc] at hat
    refine ⟨_, (hentries _).2 ⟨_, (nodeAt?_eq_some_iff (by simp)).1 hat, ?_⟩,
      h.listsNode hfs hnode node.type_linked⟩
    simp [listed?]

theorem showsDirectory (h : t.Hosts T root base) (hfs : UpToOrder fs) (htop : IsPlainName top)
    (hnode : T.node? (top :: steps) = some .directory) :
    ShowsDirectory fs t T (root / top) top (root.descend (top :: steps)) steps := by
  have hplain := NameTree.plain_of_node? hnode
  have hcomp : (root.descend (top :: steps)).components =
      (root / top).components ++ steps.map .name := by
    rw [Path.components_descend hplain, Path.components_slash htop]
    simp
  refine ⟨hnode, importPathOf?_of_components hcomp, ?_⟩
  have hentries := hfs.entries t (root.descend (top :: steps))
  rw [entriesOf, h.find hnode (by simp) true] at hentries
  obtain ⟨entries, hok, hperm⟩ := hentries.exists_perm
  refine ⟨entries, hok, h.listsPlace hfs fun d => ?_⟩
  rw [← hperm.mem_iff, List.mem_filterMap]

/-- A linked tree shows the tree that lies below a directory, in whatever order it lists things. -/
theorem shows (h : t.Hosts T root base) (hfs : UpToOrder fs) (htop : IsPlainName top)
    (hinput : isStandardInput (root / top) = false) : Shows fs t T (root / top) top := by
  refine ⟨?_, ?_, fun hdir => ?_⟩
  · rw [hfs.contains, contains_eq, h.map_find htop, Option.isSome_map]
  · simp only [hfs.isDirectory, isDirectory_eq, h.map_find htop, map_linked_eq_directory_iff]
  · have hdirs := hfs.directories t (root / top)
    have hvendor : root / top = root.descend [top] := rfl
    rw [LinkedTree.directories, hinput, hvendor, h.find hdir (by simp)] at hdirs
    obtain ⟨dirs, hok, hperm⟩ := hdirs.exists_perm
    have hmem : ∀ dir, dir ∈ dirs ↔ ∃ steps, T.node? (top :: steps) = some .directory ∧
        root.descend (top :: steps) = dir := by
      intro dir
      rw [← hperm.mem_iff, List.mem_cons, mem_directoriesBelow_iff]
      constructor
      · rintro (rfl | ⟨steps, -, hat, rfl⟩)
        · exact ⟨[], hdir, rfl⟩
        · rw [List.append_assoc, h.node, map_linked_eq_directory_iff] at hat
          exact ⟨steps, hat, rfl⟩
      · rintro ⟨steps, hnode, rfl⟩
        by_cases hnil : steps = []
        · exact .inl (by rw [hnil])
        · refine .inr ⟨steps, hnil, ?_, rfl⟩
          rw [List.append_assoc, h.node, List.singleton_append, hnode]
          rfl
    refine ⟨dirs, hok, fun dir hdir => ?_, fun steps hnode => ?_⟩
    · obtain ⟨steps, hnode, rfl⟩ := (hmem dir).1 hdir
      exact ⟨steps, h.showsDirectory hfs htop hnode⟩
    · exact ⟨_, (hmem _).2 ⟨steps, hnode, rfl⟩, h.showsDirectory hfs htop hnode⟩

end Hosts

end LinkedTree

end VendorBuild
