import VendorBuild.Proofs.Population
import VendorBuild.Proofs.Preservation

/-!
# Flat stores filled by calls

A flat store keeps no tree by itself. A directory on the way to an addition is put only where
nothing is, so a file that is on the way stays there, and a file is put in the place of whatever is
there, so a directory gives way and what is below it stays. Such calls clash with the store. What
holds an entry is there in any case, but it is a directory only as long as no call clashes, and no
later call mends it. In a store that is a tree, walking below a directory and following what
directories list lead to the same places, and each entry is listed in one directory.

Results:
* `FlatStore.isRooted_afterAll`: what calls keep up in any case.
* `FlatStore.isTree_after_iff`: one call keeps a tree exactly if it does not clash with it.
* `FlatStore.leads_iff`: where following the listings of a tree leads.
* `FlatStore.isTree_afterAll_iff`: calls fill a store with a tree exactly if none of them clashes.
* `FlatStore.afterAll_keeps_tree`: what calls make of a store.
-/

namespace VendorBuild

/-! ## Parents -/

theorem Path.top_notMem_steps (r : RawText) : Component.top ∉ Path.steps r := by
  intro hmem
  obtain hup | ⟨name, hname, -⟩ := (Path.isStep_of_mem_steps hmem).eq_up_or
  · cases hup
  · cases hname

/-- What a path from the top lies in is one step above it. -/
theorem Path.parent?_eq_some_iff {p : Path} (hp : p.isAbsolute = true) {front : List Component} :
    p.parent? = some front ↔ front ≠ [] ∧ ∃ c, p.components = front ++ [c] := by
  have hcomp := components_of_isAbsolute hp
  obtain hnil | ⟨init, last, hsteps⟩ := List.eq_nil_or_concat' (steps p.raw)
  · rw [hnil] at hcomp
    rw [parent?, hcomp]
    simp [List.singleton_eq_append_iff]
  · have hlast : last ≠ .top := by
      rintro rfl
      exact top_notMem_steps p.raw (by simp [hsteps])
    rw [hsteps, ← List.cons_append] at hcomp
    have hparent : p.parent? = some (.top :: init) := by
      rw [parent?, hcomp, List.getLast?_concat, List.dropLast_concat]
      split <;> simp_all
    rw [hparent, Option.some.injEq, hcomp]
    constructor
    · rintro rfl
      exact ⟨List.cons_ne_nil _ _, last, rfl⟩
    · rintro ⟨-, c, hc⟩
      exact (List.append_inj' hc rfl).1

namespace FlatStore

variable {s : FlatStore} {p root : Path} {place way : List Component} {bytes : Bytes}

/-- Whether something is at a place. -/
def Occupied (s : FlatStore) (place : List Component) : Prop := (s.findAt? place).isSome = true

/-- Whether all that is in a store lies below the top, each thing below something else. -/
structure IsRooted (s : FlatStore) : Prop where
  root : s.root.isAbsolute = true
  top : ∀ place, s.Occupied place → ∃ steps, place = .top :: steps ∧ .top ∉ steps
  parent : ∀ place c, place ≠ [] → s.Occupied (place ++ [c]) → s.Occupied place

theorem occupied_of_findAt? {node : FlatNode} (h : s.findAt? place = some node) :
    s.Occupied place := by
  rw [Occupied, h]
  rfl

theorem IsRooted.empty (hroot : root.isAbsolute = true) : (empty root).IsRooted where
  root := hroot
  top place hplace := by cases hplace
  parent place c _ hplace := by cases hplace

theorem IsRooted.ne_nil (h : s.IsRooted) (hplace : s.Occupied place) : place ≠ [] := by
  obtain ⟨steps, rfl, -⟩ := h.top place hplace
  exact List.cons_ne_nil _ _

theorem IsRooted.occupied_of_append (h : s.IsRooted) {more : List Component} (hne : place ≠ [])
    (hmore : s.Occupied (place ++ more)) : s.Occupied place := by
  induction more using List.reverseRecOn with
  | nil => rwa [List.append_nil] at hmore
  | append_singleton more c ih =>
    rw [← List.append_assoc] at hmore
    exact ih (h.parent _ c (List.append_ne_nil_of_left_ne_nil hne _) hmore)

theorem IsRooted.isAbsolute (h : s.IsRooted) {e : FlatEntry} (he : e ∈ s.entries) :
    e.path.isAbsolute = true := by
  obtain ⟨steps, hsteps, -⟩ := h.top _ (occupied_of_findAt? (findAt?_of_mem_entries he))
  exact Path.isAbsolute_of_components hsteps

/-- In a tree, whatever has something below it is a directory. -/
theorem isTree_iff (h : s.IsRooted) : s.IsTree ↔
    ∀ place c, place ≠ [] → s.Occupied (place ++ [c]) → s.findAt? place = some .directory := by
  constructor
  · intro htree place c hne hoccupied
    obtain ⟨node, hnode⟩ := Option.isSome_iff_exists.1 hoccupied
    obtain ⟨e, he, hcomp, -⟩ := exists_entry_of_findAt? hnode
    exact htree e he place ((Path.parent?_eq_some_iff (h.isAbsolute he)).2 ⟨hne, c, hcomp⟩)
  · intro hdirectory e he place hparent
    obtain ⟨hne, c, hcomp⟩ := (Path.parent?_eq_some_iff (h.isAbsolute he)).1 hparent
    exact hdirectory place c hne (hcomp ▸ occupied_of_findAt? (findAt?_of_mem_entries he))

/-! ## Directories and files that are put -/

/-- Whether a file is on the way to a place. -/
def FileAbove (s : FlatStore) (place : List Component) : Prop :=
  ∃ part c more bytes, place = part ++ c :: more ∧ s.findAt? part = some (.file bytes)

/-- Whether something is below a place. -/
def HoldsBelow (s : FlatStore) (place : List Component) : Prop :=
  ∃ c more, s.Occupied (place ++ c :: more)

theorem occupied_ensureAll (hp : p.isAbsolute = true) (hway : way <+: p.components) :
    (s.ensureAll way).Occupied place ↔ s.Occupied place ∨ place ≠ [] ∧ place <+: way := by
  rw [Occupied, findAt?_ensureAll hp hway]
  split
  · rename_i hon
    exact ⟨fun _ => .inr hon, fun _ => rfl⟩
  · rename_i hoff
    exact ⟨.inl, fun h => h.resolve_right hoff⟩

theorem findAt?_ensureAll_of_occupied (hp : p.isAbsolute = true) (hway : way <+: p.components)
    (hplace : s.Occupied place) : (s.ensureAll way).findAt? place = s.findAt? place := by
  obtain ⟨node, hnode⟩ := Option.isSome_iff_exists.1 hplace
  rw [findAt?_ensureAll hp hway, hnode]
  split <;> rfl

/-- All on the way is a directory by then, unless a file was in its place. -/
theorem directory_ensureAll_iff (hp : p.isAbsolute = true) (hway : way <+: p.components)
    (hne : place ≠ []) (hplace : place <+: way) :
    (s.ensureAll way).findAt? place = some .directory ↔
      ¬ ∃ bytes, s.findAt? place = some (.file bytes) := by
  rw [findAt?_ensureAll hp hway, if_pos ⟨hne, hplace⟩]
  cases s.findAt? place with
  | none => simp
  | some node => cases node <;> simp

theorem occupied_put {node : FlatNode} :
    (s.put p node).Occupied place ↔ s.Occupied place ∨ p.components = place := by
  rw [Occupied, findAt?_put]
  split
  · rename_i hp
    exact ⟨fun _ => .inr hp, fun _ => rfl⟩
  · rename_i hp
    exact ⟨.inl, fun h => h.resolve_right hp⟩

theorem directory_put_file :
    (s.put p (.file bytes)).findAt? place = some .directory ↔
      s.findAt? place = some .directory ∧ p.components ≠ place := by
  rw [findAt?_put]
  split <;> simp_all

/-- What is put on the way to a path lies below the top, each thing below something else. -/
theorem IsRooted.ensureAll (h : s.IsRooted) (hp : p.isAbsolute = true)
    (hway : way <+: p.components) : (s.ensureAll way).IsRooted where
  root := by
    rw [FlatStore.ensureAll, (foldl_ensure_frame _ s).1]
    exact h.root
  top place hplace := by
    obtain hplace | ⟨hne, hprefix⟩ := (occupied_ensureAll hp hway).1 hplace
    · exact h.top place hplace
    · have hfrom := hprefix.trans hway
      rw [Path.components_of_isAbsolute hp] at hfrom
      obtain rfl | ⟨steps, rfl, hsteps⟩ := List.prefix_cons_iff.1 hfrom
      · exact absurd rfl hne
      · exact ⟨steps, rfl, fun htop => Path.top_notMem_steps p.raw (hsteps.subset htop)⟩
  parent place c hne hplace := by
    refine (occupied_ensureAll hp hway).2 ?_
    obtain hplace | ⟨-, hprefix⟩ := (occupied_ensureAll hp hway).1 hplace
    · exact .inl (h.parent place c hne hplace)
    · exact .inr ⟨hne, (List.prefix_append place [c]).trans hprefix⟩

theorem IsRooted.put (h : s.IsRooted) (hp : p.isAbsolute = true) (node : FlatNode)
    (hparent : ∀ front c, front ≠ [] → p.components = front ++ [c] → s.Occupied front) :
    (s.put p node).IsRooted where
  root := h.root
  top place hplace := by
    obtain hplace | rfl := occupied_put.1 hplace
    · exact h.top place hplace
    · exact ⟨_, Path.components_of_isAbsolute hp, Path.top_notMem_steps _⟩
  parent place c hne hplace := by
    refine occupied_put.2 (.inl ?_)
    obtain hplace | hplace := occupied_put.1 hplace
    · exact h.parent place c hne hplace
    · exact hparent place c hne hplace

/-- Directories on the way to a path keep a tree exactly if no file is on that way. -/
theorem isTree_ensureAll_iff (h : s.IsRooted) (hp : p.isAbsolute = true)
    (hway : way <+: p.components) : (s.ensureAll way).IsTree ↔ s.IsTree ∧ ¬ s.FileAbove way := by
  rw [isTree_iff (h.ensureAll hp hway), isTree_iff h]
  constructor
  · intro htree
    refine ⟨fun place c hne hplace => ?_, ?_⟩
    · rw [← findAt?_ensureAll_of_occupied hp hway (h.parent place c hne hplace)]
      exact htree place c hne ((occupied_ensureAll hp hway).2 (.inl hplace))
    · rintro ⟨part, c, more, bytes, rfl, hfile⟩
      have hne : part ≠ [] := h.ne_nil (occupied_of_findAt? hfile)
      have hprefix : part ++ [c] <+: part ++ c :: more := ⟨more, by simp⟩
      have hchild := (occupied_ensureAll (s := s) hp hway).2 (.inr ⟨by simp, hprefix⟩)
      have hfree := (directory_ensureAll_iff hp hway hne (List.prefix_append _ _)).1
        (htree part c hne hchild)
      exact hfree ⟨bytes, hfile⟩
  · rintro ⟨htree, hfree⟩ place c hne hplace
    obtain hplace | ⟨-, more, rfl⟩ := (occupied_ensureAll hp hway).1 hplace
    · rw [findAt?_ensureAll_of_occupied hp hway (h.parent place c hne hplace)]
      exact htree place c hne hplace
    · rw [List.append_assoc] at hway hfree ⊢
      rw [directory_ensureAll_iff hp hway hne (List.prefix_append _ _)]
      rintro ⟨bytes, hfile⟩
      exact hfree ⟨place, c, more, bytes, rfl, hfile⟩

/-- A file keeps a tree exactly if it is put in a directory and in the place of nothing that has
something below it. -/
theorem isTree_put_file_iff (h : s.IsRooted) (hp : p.isAbsolute = true)
    (hparent : ∀ front c, front ≠ [] → p.components = front ++ [c] → s.Occupied front) :
    (s.put p (.file bytes)).IsTree ↔ s.IsTree ∧ ¬ s.HoldsBelow p.components ∧
      ∀ front c, front ≠ [] → p.components = front ++ [c] → s.findAt? front = some .directory := by
  rw [isTree_iff (h.put hp _ hparent), isTree_iff h]
  simp only [occupied_put, directory_put_file]
  constructor
  · intro htree
    refine ⟨fun place c hne hplace => (htree place c hne (.inl hplace)).1, ?_,
      fun front c hne hplace => (htree front c hne (.inr hplace)).1⟩
    rintro ⟨c, more, hbelow⟩
    have hne : p.components ≠ [] := by simp [Path.components_of_isAbsolute hp]
    have hmore : s.Occupied (p.components ++ [c] ++ more) := by rwa [List.append_assoc]
    have hchild := h.occupied_of_append (by simp) hmore
    exact (htree _ c hne (.inl hchild)).2 rfl
  · rintro ⟨htree, hempty, hdirectory⟩ place c hne (hplace | hplace)
    · refine ⟨htree place c hne hplace, ?_⟩
      rintro rfl
      exact hempty ⟨c, [], hplace⟩
    · refine ⟨hdirectory place c hne hplace, fun heq => ?_⟩
      rw [hplace] at heq
      simp at heq

/-! ## Calls -/

/-- A call that can change a store. -/
inductive Call where
  | addFile (path : Path) (bytes : Bytes)
  | addDirectory (path : Path)
  | deny (path : Path)
  | write (path : Path) (text : String)

/-- The store after a call. A write that fails leaves it as it was. -/
def after (s : FlatStore) : Call → FlatStore
  | .addFile path bytes => s.addFile path bytes
  | .addDirectory path => s.addDirectory path
  | .deny path => s.deny path
  | .write path text =>
    match s.write path text with
    | .ok s' => s'
    | .error _ => s

/-- Whether a call clashes with what is in a store: a file is on the way to what it adds, or it puts
a file where something is below. -/
def Clashes (s : FlatStore) : Call → Prop
  | .addFile path _ =>
    s.FileAbove (s.locate path).components ∨ s.HoldsBelow (s.locate path).components
  | .addDirectory path => s.FileAbove (s.locate path).components
  | .deny _ => False
  | .write path text =>
    (∃ s', s.write path text = .ok s') ∧ s.HoldsBelow (s.locate path).components

/-- A file is put in what is one step above it, which is there by then. -/
theorem addFile_eq (hroot : s.root.isAbsolute = true) (path : Path) (bytes : Bytes) :
    s.addFile path bytes =
      (s.ensureAll (s.locate path).components.dropLast).put (s.locate path) (.file bytes) := by
  have habs := isAbsolute_locate hroot path
  have hne : (s.locate path).components ≠ [] := by simp [Path.components_of_isAbsolute habs]
  rw [addFile]
  cases hparent : (s.locate path).parent? with
  | some front =>
    obtain ⟨-, c, hcomp⟩ := (Path.parent?_eq_some_iff habs).1 hparent
    rw [hcomp, List.dropLast_concat]
  | none =>
    have hnil : (s.locate path).components.dropLast = [] := by
      by_contra hfront
      have hsome := (Path.parent?_eq_some_iff habs).2
        ⟨hfront, _, (List.dropLast_append_getLast hne).symm⟩
      rw [hparent] at hsome
      cases hsome
    rw [hnil]
    rfl

theorem write_eq_ok_iff {s' : FlatStore} {path : Path} {text : String} :
    s.write path text = .ok s' ↔ s.isDenied (s.locate path) = false ∧
      s.hasParent (s.locate path) = true ∧
      s' = s.put (s.locate path) (.file (Utf8.encode text)) := by
  unfold write
  cases s.isDenied (s.locate path) <;> cases s.hasParent (s.locate path) <;> simp [eq_comm]

theorem directory_of_hasParent (hp : p.isAbsolute = true) (h : s.hasParent p = true)
    {front : List Component} {c : Component} (hne : front ≠ [])
    (hcomp : p.components = front ++ [c]) : s.findAt? front = some .directory := by
  rw [hasParent, (Path.parent?_eq_some_iff hp).2 ⟨hne, c, hcomp⟩] at h
  exact of_decide_eq_true h

theorem fileAbove_concat {c : Component} : s.FileAbove (place ++ [c]) ↔
    s.FileAbove place ∨ ∃ bytes, s.findAt? place = some (.file bytes) := by
  constructor
  · rintro ⟨part, d, more, bytes, hplace, hfile⟩
    obtain rfl | ⟨init, last, rfl⟩ := List.eq_nil_or_concat' more
    · obtain ⟨rfl, -⟩ := List.append_inj' hplace rfl
      exact .inr ⟨bytes, hfile⟩
    · rw [← List.cons_append, ← List.append_assoc] at hplace
      obtain ⟨rfl, -⟩ := List.append_inj' hplace rfl
      exact .inl ⟨part, d, init, bytes, rfl, hfile⟩
  · rintro (⟨part, d, more, bytes, rfl, hfile⟩ | ⟨bytes, hfile⟩)
    · exact ⟨part, d, more ++ [c], bytes, by simp, hfile⟩
    · exact ⟨place, c, [], bytes, rfl, hfile⟩

theorem holdsBelow_ensureAll (hp : p.isAbsolute = true) (hway : way <+: p.components) :
    (s.ensureAll way).HoldsBelow p.components ↔ s.HoldsBelow p.components := by
  refine exists_congr fun c => exists_congr fun more => ?_
  rw [occupied_ensureAll hp hway]
  refine or_iff_left fun hon => ?_
  have hlength := (hon.2.trans hway).length_le
  simp at hlength

theorem IsRooted.addFile (h : s.IsRooted) (path : Path) (bytes : Bytes) :
    (s.addFile path bytes).IsRooted := by
  have habs := isAbsolute_locate h.root path
  have hway := List.dropLast_prefix (s.locate path).components
  rw [addFile_eq h.root]
  refine (h.ensureAll habs hway).put habs _ fun front c hne hcomp => ?_
  have hfront : (s.locate path).components.dropLast = front := by
    rw [hcomp, List.dropLast_concat]
  exact (occupied_ensureAll habs hway).2 (.inr ⟨hne, hfront ▸ List.prefix_rfl⟩)

/-- A file that is added with the directories above it keeps a tree exactly if no file is above it
and nothing is below it. -/
theorem isTree_addFile_iff (h : s.IsRooted) (path : Path) (bytes : Bytes) :
    (s.addFile path bytes).IsTree ↔ s.IsTree ∧ ¬ (s.FileAbove (s.locate path).components ∨
      s.HoldsBelow (s.locate path).components) := by
  have habs := isAbsolute_locate h.root path
  obtain ⟨way, c, hcomp⟩ := (List.eq_nil_or_concat' (s.locate path).components).resolve_left
    (by simp [Path.components_of_isAbsolute habs])
  have hfront : (s.locate path).components.dropLast = way := by rw [hcomp, List.dropLast_concat]
  have hway : way <+: (s.locate path).components := hcomp ▸ List.prefix_append way [c]
  have honly {front : List Component} {d : Component}
      (hsplit : (s.locate path).components = front ++ [d]) : front = way :=
    (List.append_inj' (hsplit.symm.trans hcomp) rfl).1
  have hparent : ∀ front d, front ≠ [] → (s.locate path).components = front ++ [d] →
      (s.ensureAll way).Occupied front := fun front d hne hsplit =>
    (occupied_ensureAll habs hway).2 (.inr ⟨hne, honly hsplit ▸ List.prefix_rfl⟩)
  -- the directory that is to hold the file is there by then, unless a file is in its place
  have hdirectory : (∀ front d, front ≠ [] → (s.locate path).components = front ++ [d] →
      (s.ensureAll way).findAt? front = some .directory) ↔
        ¬ ∃ bytes, s.findAt? way = some (.file bytes) := by
    constructor
    · rintro hall ⟨bytes, hfile⟩
      have hne : way ≠ [] := h.ne_nil (occupied_of_findAt? hfile)
      exact (directory_ensureAll_iff habs hway hne List.prefix_rfl).1 (hall way c hne hcomp)
        ⟨bytes, hfile⟩
    · intro hfree front d hne hsplit
      rw [honly hsplit] at hne ⊢
      exact (directory_ensureAll_iff habs hway hne List.prefix_rfl).2 hfree
  rw [addFile_eq h.root, hfront, isTree_put_file_iff (h.ensureAll habs hway) habs hparent,
    isTree_ensureAll_iff h habs hway, holdsBelow_ensureAll habs hway, hdirectory]
  nth_rewrite 2 [hcomp]
  rw [fileAbove_concat]
  constructor
  · rintro ⟨⟨htree, habove⟩, hbelow, hfile⟩
    exact ⟨htree, fun hclash => hclash.elim (fun hway => hway.elim habove hfile) hbelow⟩
  · rintro ⟨htree, hclash⟩
    exact ⟨⟨htree, fun habove => hclash (.inl (.inl habove))⟩, fun hbelow => hclash (.inr hbelow),
      fun hfile => hclash (.inl (.inr hfile))⟩

theorem IsRooted.after (h : s.IsRooted) (call : Call) : (s.after call).IsRooted := by
  cases call with
  | addFile path bytes => exact h.addFile path bytes
  | addDirectory path => exact h.ensureAll (isAbsolute_locate h.root path) List.prefix_rfl
  | deny path => exact ⟨h.root, h.top, h.parent⟩
  | write path text =>
    have habs := isAbsolute_locate h.root path
    rw [FlatStore.after]
    split
    · rename_i s' hwrite
      obtain ⟨-, hparent, rfl⟩ := write_eq_ok_iff.1 hwrite
      exact h.put habs _ fun front c hne hcomp =>
        occupied_of_findAt? (directory_of_hasParent habs hparent hne hcomp)
    · exact h

/-- A call keeps a tree exactly if it does not clash with it, and makes none of what is no tree. -/
theorem isTree_after_iff (h : s.IsRooted) (call : Call) :
    (s.after call).IsTree ↔ s.IsTree ∧ ¬ s.Clashes call := by
  cases call with
  | addFile path bytes => exact isTree_addFile_iff h path bytes
  | addDirectory path =>
    exact isTree_ensureAll_iff h (isAbsolute_locate h.root path) List.prefix_rfl
  | deny path => exact (and_iff_left not_false).symm
  | write path text =>
    have habs := isAbsolute_locate h.root path
    rw [FlatStore.after, Clashes]
    split
    · rename_i s' hwrite
      obtain ⟨-, hparent, rfl⟩ := write_eq_ok_iff.1 hwrite
      have hdirectory : ∀ front c, front ≠ [] → (s.locate path).components = front ++ [c] →
          s.findAt? front = some .directory :=
        fun front c => directory_of_hasParent habs hparent
      have hwritten : ∃ s', s.write path text = .ok s' := ⟨_, hwrite⟩
      rw [isTree_put_file_iff h habs fun front c hne hcomp =>
        occupied_of_findAt? (hdirectory front c hne hcomp), and_iff_left hdirectory,
        and_iff_right hwritten]
    · rename_i hwrite
      simp [hwrite]

/-- The store that calls fill, from one without entries. -/
def afterAll (root : Path) (calls : List Call) : FlatStore := calls.foldl after (empty root)

theorem afterAll_concat (root : Path) (calls : List Call) (call : Call) :
    afterAll root (calls ++ [call]) = (afterAll root calls).after call := List.foldl_concat ..

theorem isRooted_afterAll (hroot : root.isAbsolute = true) (calls : List Call) :
    (afterAll root calls).IsRooted := by
  induction calls using List.reverseRecOn with
  | nil => exact .empty hroot
  | append_singleton calls call ih =>
    rw [afterAll_concat]
    exact ih.after call

/-- Calls fill a store with a tree exactly if none of them clashes with what it meets. -/
theorem isTree_afterAll_iff (hroot : root.isAbsolute = true) (calls : List Call) :
    (afterAll root calls).IsTree ↔
      ∀ front call, front ++ [call] <+: calls → ¬ (afterAll root front).Clashes call := by
  induction calls using List.reverseRecOn with
  | nil => simp [afterAll, empty, IsTree]
  | append_singleton calls last ih =>
    rw [afterAll_concat, isTree_after_iff (isRooted_afterAll hroot calls), ih]
    simp only [List.prefix_concat_iff]
    constructor
    · rintro ⟨hcalls, hlast⟩ front call (heq | hprefix)
      · obtain ⟨rfl, hcall⟩ := List.append_inj' heq rfl
        rwa [List.singleton_inj.1 hcall]
      · exact hcalls front call hprefix
    · intro hall
      exact ⟨fun front call hprefix => hall front call (.inr hprefix), hall calls last (.inl rfl)⟩

/-! ## Listings of a tree -/

/-- Whether a directory lists an entry. -/
def Lists (s : FlatStore) (p : Path) (e : DirEntry) : Prop :=
  ∃ entries, s.entriesOf p = .ok entries ∧ e ∈ entries

/-- Whether following the directories that are listed leads from one path to another. -/
inductive Leads (s : FlatStore) (d : Path) : Path → Prop
  | start : Leads s d d
  | step {p : Path} {e : DirEntry} (hp : Leads s d p) (he : s.Lists p e)
      (htype : e.type = .directory) : Leads s d e.path

/-- Whether the listings of a store agree: walking below a directory finds, each once, the places
where following the directories that are listed leads, and whatever is not the top is listed in one
directory. -/
structure IsWalkable (s : FlatStore) : Prop where
  directories : ∀ d, s.isDirectory d = true → ∃ dirs, s.directories d = .ok dirs ∧
    (dirs.map (·.components)).Nodup ∧
    ∀ place, place ∈ dirs.map (·.components) ↔
      ∃ p, s.Leads d p ∧ (s.locate p).components = place
  entries : ∀ e ∈ s.entries, e.path.components ≠ [.top] →
    ∃ d ∈ s.entries, s.Lists d.path (listed e) ∧
      ∀ p, s.Lists p (listed e) → (s.locate p).components = d.path.components

theorem lists_iff {e : DirEntry} : s.Lists p e ↔
    s.findAt? (s.locate p).components = some .directory ∧
    ∃ d ∈ s.entries, d.path.parent? = some (s.locate p).components ∧ listed d = e := by
  unfold Lists entriesOf find?
  split <;> rename_i hnode <;> simp [hnode, and_assoc]

theorem IsRooted.locate (h : s.IsRooted) {e : FlatEntry} (he : e ∈ s.entries) :
    s.locate e.path = e.path := locate_of_isAbsolute (h.isAbsolute he)

/-- In a tree, following what is listed leads to all directories below. -/
theorem leads_iff (h : s.IsRooted) (htree : s.IsTree) {d : Path} (hd : s.isDirectory d = true) :
    (∃ p, s.Leads d p ∧ (s.locate p).components = place) ↔
      s.findAt? place = some .directory ∧ (s.locate d).components <+: place := by
  have hdir : s.findAt? (s.locate d).components = some .directory := of_decide_eq_true hd
  constructor
  · rintro ⟨p, hp, rfl⟩
    induction hp with
    | start => exact ⟨hdir, List.prefix_rfl⟩
    | step _ he htype ih =>
      obtain ⟨-, e, hmem, hparent, rfl⟩ := lists_iff.1 he
      obtain ⟨-, c, hcomp⟩ := (Path.parent?_eq_some_iff (h.isAbsolute hmem)).1 hparent
      have hnode : e.node = .directory := by
        cases hnode : e.node with
        | directory => rfl
        | file bytes => simp [listed, hnode, FlatNode.type] at htype
      rw [listed, h.locate hmem, findAt?_of_mem_entries hmem, hnode, hcomp]
      exact ⟨rfl, ih.2.trans (List.prefix_append _ _)⟩
  · rintro ⟨hplace, more, rfl⟩
    induction more using List.reverseRecOn with
    | nil => exact ⟨d, .start, (List.append_nil _).symm⟩
    | append_singleton more c ih =>
      rw [← List.append_assoc] at hplace ⊢
      have hne : (s.locate d).components ++ more ≠ [] := by
        rw [Path.components_of_isAbsolute (isAbsolute_locate h.root d)]
        exact List.cons_ne_nil _ _
      have hfront := (isTree_iff h).1 htree _ c hne (occupied_of_findAt? hplace)
      obtain ⟨p, hp, hcomp⟩ := ih hfront
      obtain ⟨e, he, hecomp, hnode⟩ := exists_entry_of_findAt? hplace
      have hparent := (Path.parent?_eq_some_iff (h.isAbsolute he)).2 ⟨hne, c, hecomp⟩
      have hlists : s.Lists p (listed e) :=
        lists_iff.2 ⟨hcomp ▸ hfront, e, he, hcomp ▸ hparent, rfl⟩
      refine ⟨e.path, .step hp hlists (by rw [listed, hnode]; rfl), ?_⟩
      rw [h.locate he, hecomp]

theorem nodup_directories {d : Path} {dirs : List Path} (h : s.directories d = .ok dirs) :
    (dirs.map (·.components)).Nodup := by
  unfold directories at h
  split at h
  · cases h
    rw [List.map_map]
    exact List.pairwise_map.2 (s.distinct.filter _)
  · cases h

/-- The listings of a tree agree. -/
theorem isWalkable_of_isTree (h : s.IsRooted) (htree : s.IsTree) : s.IsWalkable where
  directories d hd := by
    obtain ⟨dirs, hdirs, hvisits⟩ := exists_visits_locate upToOrder_storage hd
    refine ⟨dirs, hdirs, nodup_directories hdirs, fun place => ?_⟩
    rw [leads_iff h htree hd, List.mem_map]
    constructor
    · rintro ⟨dir, hmem, rfl⟩
      obtain ⟨steps, hcomp, hplace⟩ := hvisits.directory dir hmem
      rw [hcomp]
      exact ⟨hplace, List.prefix_append _ _⟩
    · rintro ⟨hplace, steps, rfl⟩
      exact hvisits.all steps hplace
  entries e he htop := by
    have habs := h.isAbsolute he
    obtain ⟨front, c, hcomp⟩ := (List.eq_nil_or_concat' e.path.components).resolve_left
      (by simp [Path.components_of_isAbsolute habs])
    have hne : front ≠ [] := by
      rintro rfl
      rw [Path.components_of_isAbsolute habs] at hcomp htop
      rw [(List.cons.inj hcomp).2] at htop
      exact htop rfl
    have hparent := (Path.parent?_eq_some_iff habs).2 ⟨hne, c, hcomp⟩
    obtain ⟨d, hd, hdcomp, hnode⟩ := exists_entry_of_findAt? (htree e he front hparent)
    refine ⟨d, hd, lists_iff.2 ⟨?_, e, he, ?_, rfl⟩, fun p hp => ?_⟩
    · rw [h.locate hd, findAt?_of_mem_entries hd, hnode]
    · rw [h.locate hd, hdcomp, hparent]
    · obtain ⟨-, e', he', hparent', hlisted⟩ := lists_iff.1 hp
      have hpath : e'.path = e.path := congrArg DirEntry.path hlisted
      rw [hpath, hparent, Option.some.injEq] at hparent'
      rw [← hparent', hdcomp]

/-! ## All calls -/

instance (s : FlatStore) : Decidable s.IsTree :=
  decidable_of_iff
    (∀ e ∈ s.entries, ∀ steps ∈ e.path.parent?, s.findAt? steps = some .directory) Iff.rfl

/-- What calls make of a store. Every entry but the top lies below another, and a write that fails
changes nothing. The entries make up a tree exactly if no call clashes with the store it meets, and
the listings of a tree agree. -/
theorem afterAll_keeps_tree (hroot : root.isAbsolute = true) (calls : List Call) :
    (∀ e ∈ (afterAll root calls).entries, ∀ front, e.path.parent? = some front →
      ∃ d ∈ (afterAll root calls).entries, d.path.components = front) ∧
    ((afterAll root calls).IsTree ↔
      ∀ front call, front ++ [call] <+: calls → ¬ (afterAll root front).Clashes call) ∧
    ((afterAll root calls).IsTree → (afterAll root calls).IsWalkable) ∧
    ∀ path text fault, (afterAll root calls).write path text = .error fault →
      (afterAll root calls).after (.write path text) = afterAll root calls := by
  have h := isRooted_afterAll hroot calls
  refine ⟨fun e he front hparent => ?_, isTree_afterAll_iff hroot calls, isWalkable_of_isTree h,
    fun path text fault hfault => by rw [after, hfault]⟩
  obtain ⟨hne, c, hcomp⟩ := (Path.parent?_eq_some_iff (h.isAbsolute he)).1 hparent
  have hoccupied := occupied_of_findAt? (findAt?_of_mem_entries he)
  obtain ⟨node, hnode⟩ := Option.isSome_iff_exists.1 (h.parent front c hne (hcomp ▸ hoccupied))
  obtain ⟨d, hd, hdcomp, -⟩ := exists_entry_of_findAt? hnode
  exact ⟨d, hd, hdcomp⟩

/-- Calls none of which clashes. The first write is denied. -/
def stocking : List Call :=
  [.addFile ⟨"vendor/a/a.go"⟩ (Utf8.encode "package a\n"), .addDirectory ⟨"vendor/a/doc"⟩,
    .deny ⟨"vendor/a/BUCK"⟩, .write ⟨"vendor/a/BUCK"⟩ "", .write ⟨"/r/vendor/a/doc/BUCK"⟩ ""]

theorem afterAll_keeps_tree_stocking :
    (afterAll ⟨"/r"⟩ stocking).IsTree ∧
      (∀ front call, front ++ [call] <+: stocking → ¬ (afterAll ⟨"/r"⟩ front).Clashes call) ∧
      (afterAll ⟨"/r"⟩ stocking).IsWalkable := by
  have hroot : (⟨"/r"⟩ : Path).isAbsolute = true := by decide
  have htree : (afterAll ⟨"/r"⟩ stocking).IsTree := by decide
  obtain ⟨-, hiff, hwalk, -⟩ := afterAll_keeps_tree hroot stocking
  exact ⟨htree, hiff.1 htree, hwalk htree⟩

/-- A file gets an entry below it, and a directory with an entry becomes a file. Walking still finds
that entry, though no directory lists it. -/
theorem afterAll_breaks_tree :
    (¬ (afterAll ⟨"/r"⟩ [.addFile ⟨"a"⟩ [], .addFile ⟨"a/b"⟩ []]).IsTree ∧
      (afterAll ⟨"/r"⟩ [.addFile ⟨"a"⟩ [], .addFile ⟨"a/b"⟩ []]).isDirectory ⟨"a"⟩ = false ∧
      (afterAll ⟨"/r"⟩ [.addFile ⟨"a"⟩ [], .addFile ⟨"a/b"⟩ []]).contains ⟨"a/b"⟩ = true) ∧
    ¬ (afterAll ⟨"/r"⟩ [.addDirectory ⟨"a/b"⟩, .write ⟨"a"⟩ ""]).IsTree ∧
      ((afterAll ⟨"/r"⟩ [.addDirectory ⟨"a/b"⟩, .write ⟨"a"⟩ ""]).entriesOf ⟨"/r"⟩).toOption =
        some [⟨⟨"/r/a"⟩, "a", .file⟩] ∧
      ((afterAll ⟨"/r"⟩ [.addDirectory ⟨"a/b"⟩, .write ⟨"a"⟩ ""]).directories ⟨"/r"⟩).toOption =
        some [⟨"/r"⟩, ⟨"/r/a/b"⟩] := by
  decide +kernel

end FlatStore

end VendorBuild
