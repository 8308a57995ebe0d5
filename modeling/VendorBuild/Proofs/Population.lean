import VendorBuild.Proofs.Trees

/-!
# Flat stores filled with a tree

A flat store is filled by adding one directory or file after the other. Each addition brings along
the directories above it and leaves alone what is there, so a store to which the directories and
files of a tree have been added, in whatever order, holds the tree below its root, and nothing else
but the directories on the way to the root. Such a store shows the tree.

Results:
* `FlatStore.findAt?_ensureAll`: the directories that come with a place.
* `FlatStore.holds_filled`: a store that is filled with a tree holds it.
* `FlatStore.Holds.shows`: a store that holds a tree shows it.
-/

namespace VendorBuild

/-- The components of what lies at some names below a path. -/
def Path.below (p : Path) (place : Location) : List Component := p.components ++ place.map .name

theorem Path.below_injective (p : Path) : Function.Injective p.below :=
  fun _ _ h => map_name_injective (List.append_cancel_left h)

theorem Path.below_append (p : Path) (place more : Location) :
    p.below (place ++ more) = p.below place ++ more.map .name := by
  simp [below]

theorem Path.below_concat (p : Path) (place : Location) (name : RawText) :
    p.below (place ++ [name]) = p.below place ++ [.name name] :=
  p.below_append place [name]

/-! ## Directories on the way -/

/-- The paths on the way along some steps lead to the places on that way. -/
theorem Path.exists_mem_extensions_iff {p : Path} {way place : List Component}
    (hp : p.isAbsolute = true)
    (hway : ∀ c ∈ way, c.IsStep) :
    (∃ q ∈ Path.extensions p way, q.components = place) ↔
      ∃ part, part ≠ [] ∧ part <+: way ∧ p.components ++ part = place := by
  induction way generalizing p with
  | nil => simp [Path.extensions]
  | cons c rest ih =>
    obtain ⟨⟨hc, hslash⟩, hrest⟩ := List.forall_mem_cons.1 hway
    obtain ⟨habs, hcomp⟩ := components_join hp (isAbsolute_of_notMem hslash)
    rw [steps_of_notMem hslash] at hcomp
    simp only [List.filterMap_cons, hc, List.filterMap_nil, ← slash_def] at hcomp habs
    simp only [extensions, List.exists_mem_cons_iff, ih habs hrest, hcomp]
    constructor
    · rintro (rfl | ⟨part, -, hpart, rfl⟩)
      · exact ⟨[c], by simp, by simp, rfl⟩
      · exact ⟨c :: part, by simp, by simpa using hpart, by simp⟩
    · rintro ⟨part, hne, hpart, rfl⟩
      obtain rfl | ⟨more, rfl, hmore⟩ := List.prefix_cons_iff.1 hpart
      · exact absurd rfl hne
      · by_cases hnil : more = []
        · exact .inl (by rw [hnil])
        · exact .inr ⟨more, hnil, hmore, by simp⟩

theorem Path.exists_mem_ancestors_iff {way place : List Component}
    (hway : ∀ c ∈ way, c.IsStep) :
    (∃ q ∈ Path.extensions ⟨""⟩ (.top :: way), q.components = place) ↔
      place ≠ [] ∧ place <+: .top :: way := by
  have htop : (⟨""⟩ : Path) / Component.top.raw = ⟨"/"⟩ := by decide
  have hcomp : (⟨"/"⟩ : Path).components = [.top] := by decide
  rw [extensions, htop, List.exists_mem_cons_iff, hcomp,
    exists_mem_extensions_iff (by decide) hway, hcomp]
  constructor
  · rintro (rfl | ⟨part, -, hpart, rfl⟩)
    · simp
    · simpa using hpart
  · rintro ⟨hne, hprefix⟩
    obtain rfl | ⟨part, rfl, hpart⟩ := List.prefix_cons_iff.1 hprefix
    · exact absurd rfl hne
    · by_cases hnil : part = []
      · exact .inl (by rw [hnil])
      · exact .inr ⟨part, hnil, hpart, rfl⟩

namespace FlatStore

variable {s : FlatStore} {p root : Path} {place way : List Component}

theorem findAt?_ensure : (s.ensure p).findAt? place =
    if p.components = place then some ((s.findAt? place).getD .directory) else s.findAt? place := by
  by_cases hplace : p.components = place
  · subst hplace
    simpa [find?] using find?_ensure (s := s) (p := p) (q := p)
  · rw [if_neg hplace, ensure]
    split
    · rfl
    · rw [findAt?_put, if_neg hplace]

theorem ensure_frame (s : FlatStore) (p : Path) :
    (s.ensure p).root = s.root ∧ (s.ensure p).denied = s.denied := by
  unfold ensure
  split <;> exact ⟨rfl, rfl⟩

theorem foldl_ensure_frame (paths : List Path) (s : FlatStore) :
    (paths.foldl ensure s).root = s.root ∧ (paths.foldl ensure s).denied = s.denied := by
  induction paths generalizing s with
  | nil => exact ⟨rfl, rfl⟩
  | cons p rest ih =>
    obtain ⟨hroot, hdenied⟩ := ensure_frame s p
    rw [List.foldl_cons, (ih _).1, (ih _).2]
    exact ⟨hroot, hdenied⟩

theorem findAt?_foldl_ensure (paths : List Path) (s : FlatStore) :
    (paths.foldl ensure s).findAt? place =
      if ∃ q ∈ paths, q.components = place then some ((s.findAt? place).getD .directory)
      else s.findAt? place := by
  induction paths generalizing s with
  | nil => simp
  | cons p rest ih =>
    rw [List.foldl_cons, ih, findAt?_ensure]
    simp only [List.exists_mem_cons_iff]
    by_cases hplace : p.components = place
    · simp [hplace]
    · simp [hplace]

/-- With a place come directories wherever nothing is on the way to it. -/
theorem findAt?_ensureAll (hp : p.isAbsolute = true) (hway : way <+: p.components) :
    (s.ensureAll way).findAt? place =
      if place ≠ [] ∧ place <+: way then some ((s.findAt? place).getD .directory)
      else s.findAt? place := by
  rw [Path.components_of_isAbsolute hp] at hway
  obtain rfl | ⟨rest, rfl, hrest⟩ := List.prefix_cons_iff.1 hway
  · simp [ensureAll, Path.extensions]
  · rw [ensureAll, findAt?_foldl_ensure]
    simp only [Path.exists_mem_ancestors_iff fun c hc =>
      Path.isStep_of_mem_steps (hrest.subset hc)]

/-! ## Additions -/

/-- Adds what an entry says, and the directories above it. -/
def add (s : FlatStore) (e : FlatEntry) : FlatStore :=
  match e.node with
  | .directory => s.addDirectory e.path
  | .file bytes => s.addFile e.path bytes

/-- The store to which some entries have been added one after the other. -/
def filled (root : Path) (additions : List FlatEntry) : FlatStore :=
  additions.foldl add (empty root)

/-- Whether some entries are the directories and files of a tree below a root. A directory may be
left out if something in it is added. -/
structure Fills (T : NameTree) (root : Path) (additions : List FlatEntry) : Prop where
  sound : ∀ e ∈ additions, ∃ place, ((empty root).locate e.path).components = root.below place ∧
    T.node? place = some e.node
  complete : ∀ place node, place ≠ [] → T.node? place = some node →
    ∃ e ∈ additions, root.below place <+: ((empty root).locate e.path).components

/-- Whether a node belongs at a place in a store that holds a tree below a root. -/
inductive Belongs (T : NameTree) (root : Path) : List Component → FlatNode → Prop
  | above {place : List Component} (h : place <+: root.components) : Belongs T root place .directory
  | below {place : Location} {node : FlatNode} (h : T.node? place = some node) :
    Belongs T root (root.below place) node

/-- Whether a store holds a part of a tree below its root. -/
structure HoldsPart (s : FlatStore) (T : NameTree) (root : Path) : Prop where
  root_eq : s.root = root
  denied_eq : s.denied = []
  only : ∀ place node, s.findAt? place = some node → Belongs T root place node

/-- Whether a store holds a tree below its root, and nothing else. -/
structure Holds (s : FlatStore) (T : NameTree) (root : Path) : Prop extends HoldsPart s T root where
  node : ∀ place, place ≠ [] → s.findAt? (root.below place) = T.node? place

variable {T : NameTree} {node : FlatNode} {additions : List FlatEntry} {e : FlatEntry}

/-- On the way to what belongs there, directories belong. -/
theorem Belongs.directory_of_prefix (h : Belongs T root place node) (hway : way <+: place)
    (hne : way ≠ place) : Belongs T root way .directory := by
  cases h with
  | above h => exact .above (hway.trans h)
  | @below names node h =>
    obtain hup | hdown := List.prefix_or_prefix_of_prefix hway
      (List.prefix_append root.components (names.map .name))
    · exact .above hup
    · obtain ⟨more, rfl⟩ := hdown
      obtain ⟨front, ⟨back, rfl⟩, rfl⟩ :=
        List.prefix_map_iff.1 ((List.prefix_append_right_inj root.components).1 hway)
      refine .below (NameTree.node?_prefix h fun hnil => hne ?_)
      rw [hnil, List.append_nil, Path.below]

theorem Belongs.node?_of_below {names : Location} (h : Belongs T root (root.below names) node)
    (hne : names ≠ []) : T.node? names = some node := by
  generalize hplace : root.below names = place at h
  cases h with
  | above h =>
    have hlength := h.length_le
    rw [← hplace, Path.below, List.length_append, List.length_map] at hlength
    have := List.length_pos_iff.2 hne
    omega
  | below h =>
    rw [root.below_injective hplace]
    exact h

namespace HoldsPart

theorem empty (T : NameTree) (root : Path) : HoldsPart (.empty root) T root :=
  ⟨rfl, rfl, fun _ _ h => by cases h⟩

theorem put (h : HoldsPart s T root) (hnode : Belongs T root p.components node) :
    HoldsPart (s.put p node) T root := by
  refine ⟨h.root_eq, h.denied_eq, fun place other hother => ?_⟩
  rw [findAt?_put] at hother
  split at hother
  · rename_i hplace
    cases hother
    exact hplace ▸ hnode
  · exact h.only place other hother

theorem ensureAll (h : HoldsPart s T root) (hp : p.isAbsolute = true) (hway : way <+: p.components)
    (hdirs : ∀ place, place ≠ [] → place <+: way → Belongs T root place .directory) :
    HoldsPart (s.ensureAll way) T root := by
  obtain ⟨hroot, hdenied⟩ := foldl_ensure_frame (Path.extensions ⟨""⟩ way) s
  refine ⟨hroot.trans h.root_eq, hdenied.trans h.denied_eq, fun place node hnode => ?_⟩
  rw [findAt?_ensureAll hp hway] at hnode
  split at hnode
  · rename_i hon
    cases hold : s.findAt? place with
    | none =>
      rw [hold] at hnode
      cases hnode
      exact hdirs place hon.1 hon.2
    | some old =>
      rw [hold] at hnode
      cases hnode
      exact h.only place _ hold
  · exact h.only place node hnode

end HoldsPart

/-! ### One addition -/

/-- What has been there still is. -/
def Keeps (s s' : FlatStore) : Prop :=
  ∀ place, (s.findAt? place).isSome = true → (s'.findAt? place).isSome = true

/-- Whether something is at every place on a way. -/
def IsWay (s : FlatStore) (way : List Component) : Prop :=
  ∀ place, place ≠ [] → place <+: way → (s.findAt? place).isSome = true

theorem keeps_put (s : FlatStore) (p : Path) (node : FlatNode) : Keeps s (s.put p node) := by
  intro place hold
  rw [findAt?_put]
  split
  · rfl
  · exact hold

theorem keeps_ensureAll (hp : p.isAbsolute = true) (hway : way <+: p.components) :
    Keeps s (s.ensureAll way) := by
  intro place hold
  rw [findAt?_ensureAll hp hway]
  split
  · rfl
  · exact hold

theorem isWay_ensureAll (hp : p.isAbsolute = true) (hway : way <+: p.components) :
    IsWay (s.ensureAll way) way := by
  intro place hne hplace
  rw [findAt?_ensureAll hp hway, if_pos ⟨hne, hplace⟩]
  rfl

theorem Keeps.trans {s' s'' : FlatStore} (h : Keeps s s') (h' : Keeps s' s'') : Keeps s s'' :=
  fun place hold => h' place (h place hold)

theorem IsWay.mono {s' : FlatStore} (h : IsWay s way) (hkeep : Keeps s s') : IsWay s' way :=
  fun place hne hplace => hkeep place (h place hne hplace)

theorem add_directory_spec (h : HoldsPart s T root) (habs : (s.locate e.path).isAbsolute = true)
    {names : Location} (hplace : (s.locate e.path).components = root.below names)
    (hnode : T.node? names = some .directory) (hadd : e.node = .directory) :
    HoldsPart (s.add e) T root ∧ Keeps s (s.add e) ∧ IsWay (s.add e) (root.below names) := by
  have hbelongs : Belongs T root (root.below names) .directory := .below hnode
  have hprefix : root.below names <+: (s.locate e.path).components := hplace ▸ List.prefix_rfl
  have hstore : s.add e = s.ensureAll (root.below names) := by
    rw [add, hadd, ← hplace]
    rfl
  rw [hstore]
  refine ⟨h.ensureAll habs hprefix fun place _ hpart => ?_, keeps_ensureAll habs hprefix,
    isWay_ensureAll habs hprefix⟩
  by_cases heq : place = root.below names
  · rw [heq]
    exact hbelongs
  · exact hbelongs.directory_of_prefix hpart heq

/-- The directories that come with a file end where its name starts. -/
theorem add_file_spec (h : HoldsPart s T root) (habs : (s.locate e.path).isAbsolute = true)
    {front : Location} {name : RawText} {bytes : List UInt8}
    (hplace : (s.locate e.path).components = root.below front ++ [.name name])
    (hnode : T.node? (front ++ [name]) = some (.file bytes)) (hadd : e.node = .file bytes) :
    HoldsPart (s.add e) T root ∧ Keeps s (s.add e) ∧
      IsWay (s.add e) (root.below front ++ [.name name]) := by
  have hbelongs : Belongs T root (root.below front ++ [.name name]) (.file bytes) := by
    rw [← root.below_concat]
    exact .below hnode
  have hprefix : root.below front <+: (s.locate e.path).components :=
    hplace ▸ List.prefix_append ..
  have hstore : s.add e =
      (s.ensureAll (root.below front)).put (s.locate e.path) (.file bytes) := by
    rw [add, hadd]
    simp only [addFile, (Path.components_eq_concat_iff.1 hplace).1]
  rw [hstore]
  refine ⟨(h.ensureAll habs hprefix fun place _ hpart => ?_).put (hplace ▸ hbelongs),
    (keeps_ensureAll habs hprefix).trans (keeps_put _ _ _), fun place hne hpart => ?_⟩
  · refine hbelongs.directory_of_prefix (hpart.trans (List.prefix_append ..)) ?_
    rintro rfl
    have := hpart.length_le
    rw [List.length_append, List.length_singleton] at this
    omega
  · obtain rfl | hpart := List.prefix_concat_iff.1 hpart
    · rw [findAt?_put, if_pos hplace]
      rfl
    · exact (isWay_ensureAll habs hprefix).mono (keeps_put _ _ _) place hne hpart

/-- An addition from a tree leaves a part of the tree. It takes nothing away, and afterwards all is
there that leads to what is added. -/
theorem add_spec (h : HoldsPart s T root) (hroot : root.isAbsolute = true) {names : Location}
    (hplace : (s.locate e.path).components = root.below names)
    (hnode : T.node? names = some e.node) :
    HoldsPart (s.add e) T root ∧ Keeps s (s.add e) ∧ IsWay (s.add e) (root.below names) := by
  have habs : (s.locate e.path).isAbsolute = true := isAbsolute_locate (h.root_eq ▸ hroot) _
  cases hadd : e.node with
  | directory => exact add_directory_spec h habs hplace (hadd ▸ hnode) hadd
  | file bytes =>
    rw [hadd] at hnode
    -- the root of the tree is a directory, so a file has a name
    have hne : names ≠ [] := by
      rintro rfl
      cases hnode
    obtain ⟨front, name, rfl⟩ : ∃ front name, names = front ++ [name] :=
      ⟨_, _, (List.dropLast_append_getLast hne).symm⟩
    rw [root.below_concat] at hplace ⊢
    exact add_file_spec h habs hplace hnode hadd

/-! ### All additions -/

theorem foldl_add_spec (h : HoldsPart s T root) (hroot : root.isAbsolute = true)
    (hsound : ∀ e ∈ additions, ∃ names,
      ((empty root).locate e.path).components = root.below names ∧ T.node? names = some e.node) :
    HoldsPart (additions.foldl add s) T root ∧ Keeps s (additions.foldl add s) ∧
      ∀ e ∈ additions,
        IsWay (additions.foldl add s) ((empty root).locate e.path).components := by
  induction additions generalizing s with
  | nil => exact ⟨h, fun _ hold => hold, List.forall_mem_nil _⟩
  | cons e rest ih =>
    obtain ⟨⟨names, hplace, hnode⟩, hrest⟩ := List.forall_mem_cons.1 hsound
    have hlocate : s.locate = (empty root).locate := locate_congr h.root_eq
    obtain ⟨hpart, hkeep, hway⟩ := add_spec h hroot (hlocate ▸ hplace) hnode
    obtain ⟨hpart', hkeep', hways⟩ := ih hpart hrest
    refine ⟨hpart', hkeep.trans hkeep', List.forall_mem_cons.2 ⟨?_, hways⟩⟩
    rw [hplace]
    exact hway.mono hkeep'

/-- A store that is filled with a tree holds it, in whatever order that has been done. -/
theorem holds_filled (hroot : root.isAbsolute = true) (h : Fills T root additions) :
    (filled root additions).Holds T root := by
  obtain ⟨hpart, -, hways⟩ := foldl_add_spec (.empty T root) hroot h.sound
  refine ⟨hpart, fun place hne => ?_⟩
  have hbelongs : ∀ node, (filled root additions).findAt? (root.below place) = some node →
      T.node? place = some node := fun node hnode => (hpart.only _ _ hnode).node?_of_below hne
  cases hnode : T.node? place with
  | none =>
    rw [Option.eq_none_iff_forall_ne_some]
    intro node hfound
    rw [hbelongs node hfound] at hnode
    cases hnode
  | some node =>
    obtain ⟨e, he, hprefix⟩ := h.complete place node hne hnode
    have hsome := hways e he (root.below place) (by simp [Path.below, hne]) hprefix
    obtain ⟨found, hfound⟩ := Option.isSome_iff_exists.1 hsome
    rw [filled, hfound, ← hbelongs found hfound, hnode]

/-! ## Showing the tree -/

namespace Holds

variable {fs : Storage FlatStore} {top : RawText} {dir : Path} {steps : List Component}

theorem exists_names (h : s.Holds T root) (hnode : s.findAt? (root.components ++ steps) = some node)
    (hne : steps ≠ []) : ∃ names, steps = names.map .name ∧ T.node? names = some node := by
  have hbelongs := h.only _ _ hnode
  generalize hplace : root.components ++ steps = place at hbelongs
  cases hbelongs with
  | above habove =>
    have hlength := habove.length_le
    rw [← hplace, List.length_append] at hlength
    have := List.length_pos_iff.2 hne
    omega
  | @below names node hbelow => exact ⟨names, List.append_cancel_left hplace, hbelow⟩

/-- What is listed is the node of its path. -/
theorem listsNode_listed {place : Location} {name : RawText} {e : FlatEntry}
    (hroot : root.isAbsolute = true) (hfs : UpToOrder fs) (he : e ∈ s.entries)
    (hcomp : e.path.components = root.below place ++ [.name name]) :
    ListsNode fs s name e.node (listed e) := by
  have hfound := findAt?_of_mem_entries he
  refine ⟨?_, rfl, fun bytes hbytes => ?_⟩
  · rw [listed, (Path.components_eq_concat_iff.1 hcomp).2]
    rfl
  · have habs : e.path.isAbsolute = true := by
      rw [Path.below, List.append_assoc] at hcomp
      exact isAbsolute_of_below hroot hcomp
    rw [hfs.read, listed, read, locate_of_isAbsolute habs, find?, hfound, hbytes]

theorem listsPlace {place : Location} {entries : List DirEntry} (h : s.Holds T root)
    (hroot : root.isAbsolute = true) (hfs : UpToOrder fs)
    (hcomp : dir.components = root.below place)
    (hentries : ∀ d, d ∈ entries ↔
      ∃ e ∈ s.entries, e.path.parent? = some dir.components ∧ listed e = d) :
    ListsPlace fs s T place entries := by
  constructor
  · intro d hd
    obtain ⟨e, he, hparent, rfl⟩ := (hentries d).1 hd
    -- the path goes one step further than the directory, and every step below the root is a name
    obtain ⟨c, hsplit⟩ : ∃ c, e.path.components = root.components ++ (place.map .name ++ [c]) := by
      unfold Path.parent? at hparent
      split at hparent
      · cases hparent
      · cases hparent
      · rename_i c _ hlast
        obtain ⟨front, hfront⟩ := List.getLast?_eq_some_iff.1 hlast
        rw [hfront, List.dropLast_concat, hcomp, Option.some.injEq, Path.below] at hparent
        exact ⟨c, by rw [hfront, hparent, List.append_assoc]⟩
    have hfound := findAt?_of_mem_entries he
    obtain ⟨names, hnames, hnode⟩ := h.exists_names (hsplit ▸ hfound) (by simp)
    obtain ⟨front, last, rfl, hfront, hlast⟩ := List.append_eq_map_iff.1 hnames
    obtain rfl := map_name_injective hfront
    obtain ⟨name, rfl, hname⟩ := List.map_eq_singleton_iff.1 hlast
    have hlocated : e.path.components = root.below front ++ [.name name] := by
      rw [hsplit, ← hname, Path.below, List.append_assoc]
    have hfile := (Path.components_eq_concat_iff.1 hlocated).2
    exact ⟨name, e.node, hnode, listsNode_listed hroot hfs he hlocated⟩
  · intro name node hnode
    rw [← h.node (place ++ [name]) (by simp), root.below_concat, ← hcomp] at hnode
    obtain ⟨e, he, hplace, rfl⟩ := exists_entry_of_findAt? hnode
    rw [hcomp] at hplace hentries
    exact ⟨listed e, (hentries _).2 ⟨e, he, (Path.components_eq_concat_iff.1 hplace).1, rfl⟩,
      listsNode_listed hroot hfs he hplace⟩

theorem showsDirectory {names : Location} (h : s.Holds T root) (hroot : root.isAbsolute = true)
    (hfs : UpToOrder fs) (htop : IsPlainName top)
    (hcomp : dir.components = (root / top).components ++ names.map .name)
    (hnode : T.node? (top :: names) = some .directory) :
    ShowsDirectory fs s T (root / top) top dir names := by
  have hbelow : dir.components = root.below (top :: names) := by
    rw [hcomp, Path.components_join_name hroot htop]
    simp [Path.below]
  have habs : dir.isAbsolute = true := isAbsolute_of_below hroot hbelow
  refine ⟨hnode, importPathOf?_of_components hcomp, ?_⟩
  have hentries := hfs.entries s dir
  rw [entriesOf, find?, locate_of_isAbsolute habs, hbelow, h.node (top :: names) (by simp), hnode]
    at hentries
  obtain ⟨entries, hok, hperm⟩ := hentries.exists_perm
  refine ⟨entries, hok, h.listsPlace hroot hfs hbelow fun d => ?_⟩
  simp [← hperm.mem_iff, hbelow, and_assoc]

/-- A store that holds a tree shows it, in whatever order it lists things. -/
theorem shows (h : s.Holds T root) (hroot : root.isAbsolute = true) (hfs : UpToOrder fs)
    (htop : IsPlainName top) : Shows fs s T (root / top) top := by
  obtain ⟨habs, -⟩ := Path.components_join hroot (Path.isAbsolute_of_notMem htop.slash_notMem)
  rw [← Path.slash_def] at habs
  have hcomp := Path.components_join_name hroot htop
  have hfind : s.find? (s.locate (root / top)) = T.node? [top] := by
    rw [locate_of_isAbsolute habs, find?, hcomp, ← h.node [top] (by simp)]
    rfl
  refine ⟨by rw [hfs.contains, contains, hfind], by rw [hfs.isDirectory, isDirectory, hfind], ?_⟩
  intro hdir
  have hvendor : s.isDirectory (root / top) = true := by simp [isDirectory, hfind, hdir]
  obtain ⟨dirs, hdirs, hvisits⟩ := exists_visits hfs habs hvendor
  refine ⟨dirs, hdirs, fun dir hmem => ?_, fun names hnode => ?_⟩
  · obtain ⟨steps, hplace, hfound⟩ := hvisits.directory dir hmem
    rw [hcomp, List.append_assoc] at hfound
    obtain ⟨names, hnames, hnode⟩ := h.exists_names hfound (by simp)
    obtain ⟨first, rest, rfl, hfirst, rfl⟩ := List.append_eq_map_iff.1 hnames
    obtain rfl : first = [top] := map_name_injective hfirst
    exact ⟨rest, h.showsDirectory hroot hfs htop hplace hnode⟩
  · have hplace : (root / top).components ++ names.map .name = root.below (top :: names) := by
      rw [hcomp]
      simp [Path.below]
    obtain ⟨dir, hmem, hdir⟩ := hvisits.all (names.map .name) (by
      rw [hplace, h.node (top :: names) (by simp), hnode])
    exact ⟨dir, hmem, h.showsDirectory hroot hfs htop hdir hnode⟩

end Holds

end FlatStore

end VendorBuild
