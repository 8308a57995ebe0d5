import VendorBuild.Proofs.Lookup
import VendorBuild.Proofs.Population

/-!
# Runs over the linked tree and over the flat store

The linked tree follows a hierarchy and the flat store filters a list of paths. Filled with the same
tree, they show the same tree, so the same packages are found or in neither of them any can be told.
Each build file then goes to the same place in both, where it takes the place of a file or of
nothing, so both go on to hold the same. This holds as long as the operating system takes the paths:
the flat store takes any.

Results:
* `Agree.write`: one build file, written to both.
* `writeAll_agrees`: all build files, written to both.
* `run_agrees`: runs over the two with the same tree.
* `run_disagrees`: names that only the flat store takes, and a root that only the linked tree takes.
-/

namespace VendorBuild

section

variable {t : LinkedTree} {s : FlatStore} {T : NameTree} {root R : Path} {base front : Location}
  {name : RawText}

/-! ## One build file -/

/-- Whether a linked tree below a location to which a path leads and a flat store below its root
have the same nodes, and among them the directories of a tree and no others. -/
structure Agree (t : LinkedTree) (s : FlatStore) (T : NameTree) (root : Path) (base : Location)
    (R : Path) : Prop where
  reaches : t.Reaches root base
  denied : s.denied = []
  node : ∀ place, place ≠ [] →
    t.nodeAt? (base ++ place) = (s.findAt? (R.below place)).map FlatNode.linked
  directory : ∀ place, place ≠ [] →
    (s.findAt? (R.below place) = some .directory ↔ T.node? place = some .directory)

theorem agree_of_hosts (h : t.Hosts T root base) (h' : s.Holds T R) : Agree t s T root base R where
  reaches := h.reaches
  denied := h'.denied_eq
  node place hne := by rw [h.node, h'.node place hne]
  directory place hne := by rw [h'.node place hne]

theorem Agree.directories (h : Agree t s T root base R) (hne : front ≠ [])
    (hfront : T.node? front = some .directory) :
    s.findAt? (R.below front) = some .directory ∧
      ∀ part, part <+: front → t.nodeAt? (base ++ part) = some .directory := by
  have hflat := (h.directory front hne).2 hfront
  refine ⟨hflat, fun part hpart => ?_⟩
  by_cases hnil : part = []
  · rw [hnil, List.append_nil]
    exact h.reaches.nodeAt?
  · rw [h.node part hnil,
      (h.directory part hnil).2 (NameTree.directory_of_prefix hfront hpart)]
    rfl

/-- What is not the place of a directory has a file, if anything. -/
theorem Agree.exists_file (h : Agree t s T root base R) {place : Location} (hne : place ≠ [])
    (hplace : T.node? place ≠ some .directory) {node : LinkedNode}
    (hat : t.nodeAt? (base ++ place) = some node) : ∃ bytes, node = .file bytes := by
  rw [h.node _ hne] at hat
  obtain ⟨flat, hflat, rfl⟩ := Option.map_eq_some_iff.1 hat
  cases flat with
  | directory => exact absurd ((h.directory place hne).1 hflat) hplace
  | file bytes => exact ⟨bytes, rfl⟩

/-- A file that is put in both where no directory is leaves them in agreement. -/
theorem Agree.put (h : Agree t s T root base R) {place : Location} (hne : place ≠ [])
    (hplace : T.node? place ≠ some .directory) {p : Path} (hcomp : p.components = R.below place)
    (bytes : List UInt8) :
    Agree (t.put (base ++ place) (.file bytes)) (s.put p (.file bytes)) T root base R := by
  have hsame : ∀ other : Location, base ++ place = base ++ other ↔
      R.below place = R.below other := by
    intro other
    rw [R.below_injective.eq_iff, List.append_cancel_left_eq]
  refine ⟨h.reaches.put (by simp [hne]) (fun node => h.exists_file hne hplace) _, h.denied,
    fun other hother => ?_, fun other hother => ?_⟩
  · rw [LinkedTree.nodeAt?_put (by simp [hne]), FlatStore.findAt?_put, hcomp]
    simp only [hsame]
    split
    · rfl
    · exact h.node other hother
  · rw [FlatStore.findAt?_put, hcomp]
    split
    · rename_i heq
      rw [← R.below_injective heq]
      exact iff_of_false (by simp) hplace
    · exact h.directory other hother

/-- A file that is written to both, in a directory and not in the place of one, goes to the same
place in both. -/
theorem Agree.write (h : Agree t s T root base R) (hR : R.isAbsolute = true) (hne : front ≠ [])
    (hfront : T.node? front = some .directory)
    (hplace : T.node? (front ++ [name]) ≠ some .directory) (hname : IsPlainName name)
    (haccepts : LinkedTree.Accepts (root.descend (front ++ [name]))) (text : String) :
    ∃ t' s', t.write (root.descend (front ++ [name])) text = .ok t' ∧
      s.write (R.descend (front ++ [name])) text = .ok s' ∧ Agree t' s' T root base R := by
  have hplain : ∀ n ∈ front ++ [name], IsPlainName n := by
    intro n hmem
    rcases List.mem_append.1 hmem with hmem | hmem
    · exact NameTree.plain_of_node? hfront n hmem
    · exact List.mem_singleton.1 hmem ▸ hname
  have hcomp : (R.descend (front ++ [name])).components = R.below (front ++ [name]) :=
    Path.components_descend hplain
  obtain ⟨hflat, hdirs⟩ := h.directories hne hfront
  refine ⟨t.put (base ++ (front ++ [name])) (.file (Utf8.encode text)),
    s.put (R.descend (front ++ [name])) (.file (Utf8.encode text)), ?_, ?_,
    h.put (by simp) hplace hcomp _⟩
  · rw [LinkedTree.write, LinkedTree.writeBytes, h.reaches.fileLocation_eq haccepts hplain hdirs
      fun node => h.exists_file (by simp) hplace]
  · have habs : (R.descend (front ++ [name])).isAbsolute = true := isAbsolute_of_below hR hcomp
    have hparent := (FlatStore.hasParent_iff (hcomp.trans (R.below_concat front name))).2 hflat
    rw [FlatStore.write_of_isAbsolute s habs, FlatStore.isDenied, h.denied, hparent]
    rfl

/-! ## All build files -/

/-- Whether the directory at a place of a tree has a source. -/
def NameTree.HasSource (T : NameTree) (place : Location) : Prop :=
  ∃ name bytes, T.IsSource place name bytes

variable {settings : Settings} {packages : PackageSet} {b : Build} {builds : List Build}

/-- Whether the build file of a build goes into a directory of a tree below the vendor directory and
not in the place of one, and the operating system takes its path. -/
def Lands (T : NameTree) (settings : Settings) (b : Build) : Prop :=
  ∃ steps : Location, steps ≠ [] ∧ b.package.importPath = spelledPath (steps.map .name) ∧
    T.node? (settings.vendorName :: steps) = some .directory ∧
    T.node? (settings.vendorName :: (steps ++ [(settings.buildFileName : RawText)])) ≠
      some .directory ∧
    LinkedTree.Accepts (settings.root.descend
      (settings.vendorName :: (steps ++ [(settings.buildFileName : RawText)])))

theorem buildPath_spelledPath {steps : Location} {top : RawText} (hne : steps ≠ [])
    (hplain : ∀ n ∈ steps, IsPlainName n) (htexts : ∀ n ∈ steps, (Component.name n).IsText)
    (p : Path) (fileName : String) :
    buildPath (p / top) (spelledPath (steps.map .name)) fileName =
      p.descend (top :: (steps ++ [(fileName : RawText)])) := by
  have hpieces : pieces '/' (spelledPath (steps.map .name)) = steps.map RawText.text := by
    rw [spelledPath, List.map_map]
    refine pieces_intercalate rfl (by simpa using hne) fun text htext => ?_
    obtain ⟨n, hn, rfl⟩ := List.mem_map.1 htext
    exact RawText.slash_notMem_text (hplain n hn).slash_notMem
  have hdescend : steps.foldl (fun p n => p / n.text) (p / top) = (p / top).descend steps := by
    refine List.foldl_ext _ _ _ fun p n hn => ?_
    rw [Path.slash_ofString, Component.name.inj (htexts n hn)]
  have hcons : p.descend (top :: (steps ++ [(fileName : RawText)])) =
      (p / top).descend (steps ++ [(fileName : RawText)]) := rfl
  rw [buildPath, hpieces, List.foldl_map, hdescend, hcons, LinkedTree.descend_concat]
  rfl

theorem Agree.writeBuild {fs : Storage LinkedTree} {fs' : Storage FlatStore}
    (h : Agree t s T settings.root base R) (hR : R.isAbsolute = true)
    (hname : IsPlainName settings.buildFileName) (hfs : fs.write = LinkedTree.write)
    (hfs' : fs'.write = FlatStore.write) (hlands : Lands T settings b) :
    ∃ file t' file' s', b.write fs settings t = .ok (file, t') ∧
      b.write fs' { settings with root := R } s = .ok (file', s') ∧
      Agree t' s' T settings.root base R := by
  obtain ⟨steps, hne, hpath, hdir, hplace, haccepts⟩ := hlands
  have hplain : ∀ n ∈ steps, IsPlainName n :=
    fun n hn => NameTree.plain_of_node? hdir n (List.mem_cons_of_mem _ hn)
  have htexts : ∀ n ∈ steps, (Component.name n).IsText :=
    fun n hn => NameTree.texts_of_node? hdir n (List.mem_cons_of_mem _ hn)
  rw [← List.cons_append] at hplace haccepts
  obtain ⟨t', s', ht, hs, hnext⟩ :=
    h.write hR (by simp) hdir hplace hname haccepts b.rule.render
  rw [List.cons_append] at ht hs
  have hreal : (b.file settings).path = settings.root.descend
      (settings.vendorName :: (steps ++ [(settings.buildFileName : RawText)])) := by
    rw [← buildPath_spelledPath hne hplain htexts, ← hpath]
    rfl
  have hflat : (b.file { settings with root := R }).path =
      R.descend (settings.vendorName :: (steps ++ [(settings.buildFileName : RawText)])) := by
    rw [← buildPath_spelledPath hne hplain htexts, ← hpath]
    rfl
  refine ⟨b.file settings, t', b.file { settings with root := R }, s', ?_, ?_, hnext⟩
  · rw [Build.write, hfs, hreal, Build.text_file, ht]
    rfl
  · rw [Build.write, hfs', hflat, Build.text_file, hs]
    rfl

/-- Builds that land are all written to both, which then still agree. -/
theorem writeAll_agrees {fs : Storage LinkedTree} {fs' : Storage FlatStore}
    (h : Agree t s T settings.root base R) (hR : R.isAbsolute = true)
    (hname : IsPlainName settings.buildFileName) (hfs : fs.write = LinkedTree.write)
    (hfs' : fs'.write = FlatStore.write) (hlands : ∀ b ∈ builds, Lands T settings b) :
    (writeAll fs settings builds t).result = .ok (builds.map (·.generated settings)) ∧
      (writeAll fs' { settings with root := R } builds s).result =
        .ok (builds.map (·.generated settings)) ∧
      Agree (writeAll fs settings builds t).state
        (writeAll fs' { settings with root := R } builds s).state T settings.root base R := by
  induction builds generalizing t s with
  | nil => exact ⟨rfl, rfl, h⟩
  | cons b rest ih =>
    obtain ⟨hfirst, hrest⟩ := List.forall_mem_cons.1 hlands
    obtain ⟨file, t', file', s', ht, hs, hnext⟩ := h.writeBuild hR hname hfs hfs' hfirst
    obtain ⟨hresult, hresult', hstate⟩ := ih hnext hrest
    simp only [writeAll, ht, hs, hresult, hresult']
    exact ⟨rfl, rfl, hstate⟩

/-- The builds of the packages of a tree land, unless a directory has the place of a build file. -/
theorem lands_of_hasPackages (h : T.HasPackages settings.vendorName packages)
    (hfree : ∀ steps : Location, steps ≠ [] → T.HasSource (settings.vendorName :: steps) →
      T.node? (settings.vendorName :: (steps ++ [(settings.buildFileName : RawText)])) ≠
        some .directory)
    (haccepts : ∀ steps : Location, steps ≠ [] → T.HasSource (settings.vendorName :: steps) →
      LinkedTree.Accepts (settings.root.descend
        (settings.vendorName :: (steps ++ [(settings.buildFileName : RawText)]))))
    (hb : b ∈ plan packages settings.cell) : Lands T settings b := by
  rw [plan_eq_map] at hb
  obtain ⟨e, he, rfl⟩ := List.mem_map.1 hb
  obtain ⟨hkey, steps, hne, hpath, hof⟩ := (h.find?_iff _ _).1 (NameMap.mem_entries_iff.1 he)
  obtain ⟨_, name, bytes, hsource, -⟩ := hof.inhabited
  have hsources : T.HasSource (settings.vendorName :: steps) := ⟨name, bytes, hsource⟩
  exact ⟨steps, hne, hkey.trans hpath.symm, Shows.directory_of_isOf hof, hfree steps hne hsources,
    haccepts steps hne hsources⟩

/-! ## Storage made of a tree -/

namespace NameTree

/-- The linked tree with a tree at its top, which is also the working directory. -/
def linkedTree (T : NameTree) : LinkedTree where
  workingDir := []
  nodes := T.nodes.map fun e => (e.1, e.2.linked)
  distinct := List.pairwise_map.2 T.distinct

theorem nodeAt?_linkedTree (T : NameTree) (place : Location) :
    T.linkedTree.nodeAt? place = (T.node? place).map FlatNode.linked := by
  rw [LinkedTree.nodeAt?, node?, linkedTree]
  split
  · rfl
  · rw [List.find?_map, Option.map_map, Option.map_map]
    rfl

theorem hosts_linkedTree (hroot : root = ⟨"/"⟩ ∨ root = ⟨"."⟩)
    (haccepts : ∀ e ∈ T.nodes, LinkedTree.Accepts (root.descend e.1)) :
    T.linkedTree.Hosts T root [] := by
  refine ⟨⟨LinkedTree.linkLimit, ?_⟩, T.nodeAt?_linkedTree, fun place node hne hnode => ?_⟩
  · have htop : T.linkedTree.nodeAt? [] = some .directory := rfl
    obtain rfl | rfl := hroot
    · have hnames : LinkedTree.names ⟨"/"⟩ = [] := by decide
      rw [hnames, LinkedTree.walk]
      rfl
    · have hnames : LinkedTree.names ⟨"."⟩ = [("." : RawText)] := by decide
      have hstart : LinkedTree.startFrom T.linkedTree.workingDir ⟨"."⟩ = [] := rfl
      rw [hnames, hstart, LinkedTree.walk, if_neg (by simp [htop]), if_pos rfl, LinkedTree.walk,
        htop]
  · exact haccepts _ ((node?_eq_some_iff hne).1 hnode)

/-- The nodes of a tree, each under its path from a root. -/
def additions (T : NameTree) (root : Path) : List FlatEntry :=
  T.nodes.map fun e => ⟨root.descend e.1, e.2⟩

theorem fills_additions (T : NameTree) (hR : R.isAbsolute = true)
    (hnames : ∀ e ∈ T.nodes, e.1 ≠ []) : FlatStore.Fills T R (T.additions R) := by
  have hlocate : ∀ e ∈ T.nodes,
      ((FlatStore.empty R).locate (R.descend e.1)).components = R.below e.1 := by
    intro e he
    have hcomp : (R.descend e.1).components = R.below e.1 := Path.components_descend (T.plain e he)
    rw [FlatStore.locate_of_isAbsolute (isAbsolute_of_below hR hcomp), hcomp]
  constructor
  · intro e he
    obtain ⟨d, hd, rfl⟩ := List.mem_map.1 he
    exact ⟨d.1, hlocate d hd, (node?_eq_some_iff (hnames d hd)).2 hd⟩
  · intro place node hne hnode
    have hmem := (node?_eq_some_iff hne).1 hnode
    exact ⟨_, List.mem_map_of_mem hmem, by rw [hlocate _ hmem]⟩

end NameTree

/-! ## Runs -/

/-- The linked tree and the flat store agree. Over a tree of directories and files that lies where
the root leads in a linked tree, and over a flat store that has been filled with the same tree in
any order below a root from the top, runs either both fail, or both succeed with the same report and
leave the same nodes at every place below their roots. The storages may list things in any order. No
package may have a directory in the place of its build file, and the operating system has to take
the paths of the tree and of the build files. -/
theorem run_agrees {fs : Storage LinkedTree} {fs' : Storage FlatStore} {additions : List FlatEntry}
    (hvendor : IsPlainName settings.vendorName) (hname : IsPlainName settings.buildFileName)
    (hinput : LinkedTree.isStandardInput settings.vendorDir = false)
    (hosts : t.Hosts T settings.root base) (hR : R.isAbsolute = true)
    (hfills : FlatStore.Fills T R additions) (hfs : LinkedTree.UpToOrder fs)
    (hfs' : FlatStore.UpToOrder fs')
    (hfree : ∀ steps : Location, steps ≠ [] → T.HasSource (settings.vendorName :: steps) →
      T.node? (settings.vendorName :: (steps ++ [(settings.buildFileName : RawText)])) ≠
        some .directory)
    (haccepts : ∀ steps : Location, steps ≠ [] → T.HasSource (settings.vendorName :: steps) →
      LinkedTree.Accepts (settings.root.descend
        (settings.vendorName :: (steps ++ [(settings.buildFileName : RawText)])))) :
    let o := run fs settings t
    let o' := run fs' { settings with root := R } (FlatStore.filled R additions)
    (∃ fault fault', o.result = .error fault ∧ o'.result = .error fault') ∨
    ∃ report, o.result = .ok report ∧ o'.result = .ok report ∧
      ∀ place, place ≠ [] →
        o.state.nodeAt? (base ++ place) =
          (o'.state.findAt? (R.below place)).map FlatNode.linked := by
  intro o o'
  have hholds := FlatStore.holds_filled hR hfills
  have hreal : ∀ packages, discover fs t settings.vendorDir = .ok packages ↔
      T.HasPackages settings.vendorName packages :=
    fun _ => (hosts.shows hfs hvendor hinput).discover_eq_ok_iff
  have hflat : ∀ packages, discover fs' (FlatStore.filled R additions)
      { settings with root := R }.vendorDir = .ok packages ↔
        T.HasPackages settings.vendorName packages :=
    fun _ => (hholds.shows hR hfs' hvendor).discover_eq_ok_iff
  cases hfound : discover fs t settings.vendorDir with
  | error cause =>
    left
    cases hfound' : discover fs' (FlatStore.filled R additions)
        { settings with root := R }.vendorDir with
    | error cause' =>
      exact ⟨_, _, (run_of_discover_error hfound).1, (run_of_discover_error hfound').1⟩
    | ok packages => cases hfound.symm.trans ((hreal _).2 ((hflat _).1 hfound'))
  | ok packages =>
    right
    have hpackages := (hreal packages).1 hfound
    obtain ⟨hresult, hstate⟩ := run_of_discover_ok hfound
    obtain ⟨hresult', hstate'⟩ := run_of_discover_ok ((hflat packages).2 hpackages)
    obtain ⟨hok, hok', hagree⟩ := writeAll_agrees (agree_of_hosts hosts hholds) hR hname hfs.write
      hfs'.write fun b hb => lands_of_hasPackages hpackages hfree haccepts hb
    refine ⟨_, hresult.trans hok, hresult'.trans hok', fun place hne => ?_⟩
    have hnode := hagree.node place hne
    rwa [← hstate, ← hstate'] at hnode

/-- A vendored tree of two packages, the first of which imports the second. -/
def vendoredPair : NameTree where
  nodes :=
    [(["vendor", "b", "b.go"], .file (Utf8.encode "package b\n")),
      (["vendor", "a", "a.go"], .file (Utf8.encode "package a\nimport \"b\"\n")),
      (["vendor", "b"], .directory), (["vendor", "a"], .directory), (["vendor"], .directory)]
  distinct := by decide
  parents := by simp
  plain := by simp only [List.forall_mem_cons]; decide
  texts := by simp only [List.forall_mem_cons]; decide +kernel

theorem steps_of_hasSource_vendoredPair {steps : Location}
    (h : vendoredPair.HasSource ("vendor" :: steps)) :
    steps = [("a" : RawText)] ∨ steps = [("b" : RawText)] := by
  obtain ⟨name, bytes, -, hfile⟩ := h
  have hmem := (NameTree.node?_eq_some_iff (by simp)).1 hfile
  have hplace : steps ++ [name] = [("b" : RawText)] ++ [("b.go" : RawText)] ∨
      steps ++ [name] = [("a" : RawText)] ++ [("a.go" : RawText)] := by
    simp only [vendoredPair, List.cons_append, List.mem_cons, Prod.mk.injEq, List.cons.injEq,
      true_and, reduceCtorEq, and_false, List.not_mem_nil, or_false] at hmem
    exact hmem.imp And.left And.left
  obtain h | h := hplace
  · exact .inr (List.append_inj_left' h (by simp))
  · exact .inl (List.append_inj_left' h (by simp))

theorem run_vendoredPair :
    let o := run LinkedTree.storage { root := ⟨"."⟩ } vendoredPair.linkedTree
    let o' := run FlatStore.backwards { root := ⟨"/r"⟩ }
      (FlatStore.filled ⟨"/r"⟩ (vendoredPair.additions ⟨"/r"⟩))
    o.result = .ok [⟨"vendor/a/BUCK", ["//vendor/b:b"]⟩, ⟨"vendor/b/BUCK", []⟩] ∧
      ∀ place, place ≠ [] → o.state.nodeAt? place =
        (o'.state.findAt? ((⟨"/r"⟩ : Path).below place)).map FlatNode.linked := by
  intro o o'
  have hflat : o'.result =
      .ok [⟨"vendor/a/BUCK", ["//vendor/b:b"]⟩, ⟨"vendor/b/BUCK", []⟩] := by decide +kernel
  have hhosts : vendoredPair.linkedTree.Hosts vendoredPair ⟨"."⟩ [] := by
    refine NameTree.hosts_linkedTree (.inr rfl) ?_
    simp only [vendoredPair, List.forall_mem_cons]
    decide
  have hroot : (⟨"/r"⟩ : Path).isAbsolute = true := by decide
  have hfills : FlatStore.Fills vendoredPair ⟨"/r"⟩ (vendoredPair.additions ⟨"/r"⟩) :=
    vendoredPair.fills_additions hroot (by simp [vendoredPair])
  have hfree : ∀ steps : Location, steps ≠ [] → vendoredPair.HasSource ("vendor" :: steps) →
      vendoredPair.node? ("vendor" :: (steps ++ [("BUCK" : RawText)])) ≠ some .directory := by
    intro steps _ hsource
    obtain rfl | rfl := steps_of_hasSource_vendoredPair hsource <;> decide
  have haccepts : ∀ steps : Location, steps ≠ [] → vendoredPair.HasSource ("vendor" :: steps) →
      LinkedTree.Accepts
        ((⟨"."⟩ : Path).descend ("vendor" :: (steps ++ [("BUCK" : RawText)]))) := by
    intro steps _ hsource
    obtain rfl | rfl := steps_of_hasSource_vendoredPair hsource <;> decide
  obtain ⟨_, _, -, hfault⟩ | ⟨report, hreport, hreport', hnodes⟩ :=
    @run_agrees vendoredPair.linkedTree vendoredPair ⟨"/r"⟩ [] { root := ⟨"."⟩ } LinkedTree.storage
      FlatStore.backwards (vendoredPair.additions ⟨"/r"⟩) (by decide) (by decide)
      (by decide) hhosts hroot hfills LinkedTree.upToOrder_storage
      FlatStore.upToOrder_backwards hfree haccepts
  · cases hflat.symm.trans hfault
  · exact ⟨hreport.trans (hreport'.symm.trans hflat), hnodes⟩

/-- A vendored tree of one package. -/
def vendoredOne : NameTree where
  nodes :=
    [(["vendor", "a", "a.go"], .file (Utf8.encode "package a\n")), (["vendor", "a"], .directory),
      (["vendor"], .directory)]
  distinct := by decide
  parents := by simp
  plain := by simp only [List.forall_mem_cons]; decide
  texts := by simp only [List.forall_mem_cons]; decide +kernel

/-- A vendor directory without packages. -/
def vendoredNone : NameTree where
  nodes := [(["vendor"], .directory)]
  distinct := by decide
  parents := by simp
  plain := by simp only [List.forall_mem_cons]; decide
  texts := by simp only [List.forall_mem_cons]; decide +kernel

/-- A name of one byte more than the operating system takes. -/
def longName : String := String.ofList (List.replicate 256 'A')

/-- What is found below the same root in storage that shows the same tree is the same. -/
theorem discover_linkedTree_iff (hroot : root = ⟨"/"⟩ ∨ root = ⟨"."⟩) (hR : R.isAbsolute = true)
    (hnames : ∀ e ∈ T.nodes, e.1 ≠ [])
    (haccepts : ∀ e ∈ T.nodes, LinkedTree.Accepts (root.descend e.1)) :
    discover LinkedTree.storage T.linkedTree (root / ("vendor" : RawText)) = .ok packages ↔
      discover FlatStore.storage (FlatStore.filled R (T.additions R)) (R / ("vendor" : RawText)) =
        .ok packages := by
  have hinput : LinkedTree.isStandardInput (root / ("vendor" : RawText)) = false := by
    obtain rfl | rfl := hroot <;> decide
  have hvendor : IsPlainName "vendor" := by decide
  have hholds := FlatStore.holds_filled hR (T.fills_additions hR hnames)
  rw [((NameTree.hosts_linkedTree hroot haccepts).shows LinkedTree.upToOrder_storage hvendor
    hinput).discover_eq_ok_iff,
    (hholds.shows hR FlatStore.upToOrder_storage hvendor).discover_eq_ok_iff]

theorem longName_eq : (longName : RawText) = ⟨List.replicate 256 0x41⟩ := by
  have hchars : longName.toList = List.replicate 256 'A' := String.toList_ofList
  have hbyte : String.utf8EncodeChar 'A' = [0x41] := by decide
  apply RawText.ext_bytes
  rw [RawText.ofString, Utf8.encode, hchars, List.flatMap_replicate, hbyte,
    List.flatten_replicate_singleton]

theorem isPlainName_longName : IsPlainName longName := by
  rw [longName_eq]
  decide

theorem length_longName : LinkedTree.nameLimit < (longName : RawText).bytes.length := by
  rw [longName_eq]
  decide +kernel

theorem checkPath_longName :
    LinkedTree.checkPath ((⟨"/"⟩ : Path).descend ["vendor", "a", longName]) = .ok () := by
  rw [longName_eq]
  decide +kernel

theorem accepts_vendoredOne :
    ∀ e ∈ vendoredOne.nodes, LinkedTree.Accepts ((⟨"/"⟩ : Path).descend e.1) := by
  simp only [vendoredOne, List.forall_mem_cons]
  decide

theorem hosts_vendoredOne : vendoredOne.linkedTree.Hosts vendoredOne ⟨"/"⟩ [] :=
  NameTree.hosts_linkedTree (.inl rfl) accepts_vendoredOne

theorem accepts_vendoredNone :
    ∀ e ∈ vendoredNone.nodes, LinkedTree.Accepts ((⟨"."⟩ : Path).descend e.1) := by
  simp only [vendoredNone, List.forall_mem_cons]
  decide

theorem hosts_vendoredNone : vendoredNone.linkedTree.Hosts vendoredNone ⟨"."⟩ [] :=
  NameTree.hosts_linkedTree (.inr rfl) accepts_vendoredNone

theorem fileLocation_vendoredOne (hname : IsPlainName name)
    (hcheck : LinkedTree.checkPath ((⟨"/"⟩ : Path).descend ["vendor", "a", name]) = .ok ())
    (hlong : LinkedTree.nameLimit < name.bytes.length) :
    vendoredOne.linkedTree.fileLocation ((⟨"/"⟩ : Path).descend ["vendor", "a", name]) =
      .error .nameTooLong := by
  have hdir : ∀ n ∈ ([(("vendor" : String) : RawText), "a"] : Location),
      IsPlainName n ∧ n.bytes.length ≤ LinkedTree.nameLimit := by
    simp only [List.forall_mem_cons]
    decide
  refine hosts_vendoredOne.reaches.fileLocation_of_tooLong hcheck ?_ (fun n hn => (hdir n hn).2)
    hlong (hosts_vendoredOne.directories (by decide))
  intro n hn
  rcases List.mem_append.1 hn with hn | hn
  · exact (hdir n hn).1
  · exact List.mem_singleton.1 hn ▸ hname

theorem discover_vendoredOne : ∃ packages e,
    discover FlatStore.storage (FlatStore.filled ⟨"/"⟩ (vendoredOne.additions ⟨"/"⟩))
      ((⟨"/"⟩ : Path) / ("vendor" : RawText)) = .ok packages ∧
    packages.entries = [e] ∧ e.1 = "a" ∧ e.2.importPath = "a" ∧
    e.2.labels packages.targetNames "vendor" = [] := by
  have hkeys : (discover FlatStore.storage
      (FlatStore.filled ⟨"/"⟩ (vendoredOne.additions ⟨"/"⟩))
      ((⟨"/"⟩ : Path) / ("vendor" : RawText))).toOption.map (fun packages =>
        packages.entries.map fun e =>
          (e.1, e.2.importPath, e.2.labels packages.targetNames "vendor")) =
      some [("a", "a", [])] := by decide +kernel
  obtain ⟨packages, hfound, hentries⟩ := Option.map_eq_some_iff.1 hkeys
  obtain ⟨e, hsole, he⟩ := List.map_eq_singleton_iff.1 hentries
  simp only [Prod.mk.injEq] at he
  exact ⟨packages, e, Except.toOption_eq_some_iff.1 hfound, hsole, he⟩

/-- Over the linked tree, no build file is written if its name is too long. -/
theorem run_vendoredOne_of_tooLong {name : String} (hname : IsPlainName name)
    (hcheck : LinkedTree.checkPath ((⟨"/"⟩ : Path).descend ["vendor", "a", name]) = .ok ())
    (hlong : LinkedTree.nameLimit < (name : RawText).bytes.length) :
    (run LinkedTree.storage { root := ⟨"/"⟩, buildFileName := name }
      vendoredOne.linkedTree).result =
        .error (.writing name "a"
          (.writeFailed ((⟨"/"⟩ : Path).descend ["vendor", "a", name]) .nameTooLong)) := by
  obtain ⟨packages, e, hflat, hsole, -, hpath, -⟩ := discover_vendoredOne
  have hfound : discover LinkedTree.storage vendoredOne.linkedTree
      ({ root := ⟨"/"⟩, buildFileName := name } : Settings).vendorDir = .ok packages := by
    refine (discover_linkedTree_iff (.inl rfl) (by decide) (by simp [vendoredOne]) ?_).2
      hflat
    exact accepts_vendoredOne
  have hfile : ((plannedBuild { root := ⟨"/"⟩, buildFileName := name } packages e.2).file
      { root := ⟨"/"⟩, buildFileName := name }).path =
        (⟨"/"⟩ : Path).descend ["vendor", "a", name] := by
    have hpieces : pieces '/' "a" = ["a"] := by decide
    simp only [Build.file, plannedBuild, hpath, buildPath, hpieces]
    rfl
  have hwrite : (plannedBuild { root := ⟨"/"⟩, buildFileName := name } packages e.2).write
      LinkedTree.storage { root := ⟨"/"⟩, buildFileName := name } vendoredOne.linkedTree =
        .error (.writeFailed ((⟨"/"⟩ : Path).descend ["vendor", "a", name]) .nameTooLong) := by
    have hlocation := fileLocation_vendoredOne hname hcheck hlong
    simp only [Build.write, LinkedTree.storage, LinkedTree.write, LinkedTree.writeBytes, hfile,
      hlocation]
    rfl
  rw [(run_of_discover_ok hfound).1, plan_eq_map, hsole, List.map_singleton, writeAll, hwrite]
  simp only [plannedBuild, hpath]

/-- Over the flat store, a build file is written with any name. -/
theorem run_filled_vendoredOne {name : String} (hname : IsPlainName name) :
    (run FlatStore.storage { root := ⟨"/"⟩, buildFileName := name }
      (FlatStore.filled ⟨"/"⟩ (vendoredOne.additions ⟨"/"⟩))).result =
        .ok [⟨"vendor/a/" ++ name, []⟩] := by
  obtain ⟨packages, e, hflat, hsole, hkey, -, hlabels⟩ := discover_vendoredOne
  have hdenied : (FlatStore.filled ⟨"/"⟩ (vendoredOne.additions ⟨"/"⟩)).denied = [] := by
    decide
  have hplace : (FlatStore.filled ⟨"/"⟩ (vendoredOne.additions ⟨"/"⟩)).findAt?
      (((⟨"/"⟩ : Path) / ("vendor" : RawText)).components ++ Path.steps "a") =
        some .directory := by
    decide
  have habs : (⟨"/"⟩ : Path).isAbsolute = true := by decide
  have hemission := @run_emission { root := ⟨"/"⟩, buildFileName := name }
    (FlatStore.filled ⟨"/"⟩ (vendoredOne.additions ⟨"/"⟩)) packages habs hname hflat
  rw [hsole] at hemission
  obtain ⟨-, hresult, -⟩ | ⟨before, d, after, hsplit, -, hblocked, -, -⟩ := hemission
  · have hfront : "vendor" ++ "/" ++ "a" ++ "/" = "vendor/a/" := by decide
    rw [hresult, List.map_singleton, reportedFile, hkey, hlabels, hfront]
  · have hd : d = e := by
      have hmem : d ∈ [e] := hsplit ▸ by simp
      exact List.mem_singleton.1 hmem
    obtain hden | ⟨other, -, heq⟩ | hnone := hblocked
    · rw [FlatStore.isDenied, hdenied] at hden
      cases hden
    · -- the import path has no slash, as the place of a build file has
      have hslash : '/' ∈ d.1.toList := by simp [heq]
      rw [hd, hkey] at hslash
      exact absurd hslash (by decide)
    · rw [hd, hkey] at hnone
      exact absurd hplace hnone

/-- Over the linked tree, no packages are found where there are none, from whatever directory. -/
theorem run_vendoredNone :
    (run LinkedTree.storage { root := ⟨"."⟩ } vendoredNone.linkedTree).result = .ok [] := by
  have hkeys : (discover FlatStore.storage
      (FlatStore.filled ⟨"/r"⟩ (vendoredNone.additions ⟨"/r"⟩))
        ((⟨"/r"⟩ : Path) / ("vendor" : RawText))).toOption.map (·.entries.length) = some 0 := by
    decide
  obtain ⟨packages, hflat, hentries⟩ := Option.map_eq_some_iff.1 hkeys
  rw [Except.toOption_eq_some_iff] at hflat
  have hfound : discover LinkedTree.storage vendoredNone.linkedTree
      ({ root := ⟨"."⟩ } : Settings).vendorDir = .ok packages := by
    refine (discover_linkedTree_iff (.inr rfl) (by decide) (by simp [vendoredNone]) ?_).2
      hflat
    exact accepts_vendoredNone
  rw [(run_of_discover_ok hfound).1, plan_eq_map, List.length_eq_zero_iff.1 hentries]
  rfl

/-- Where the two do not agree. The flat store takes a name for the build files that the operating
system finds too long. And a path for the root that does not start at the top leads to the linked
tree, but the directories that the flat store lists do not lie below it. -/
theorem run_disagrees :
    (IsPlainName longName ∧
      vendoredOne.linkedTree.Hosts vendoredOne ⟨"/"⟩ [] ∧
      FlatStore.Fills vendoredOne ⟨"/"⟩ (vendoredOne.additions ⟨"/"⟩) ∧
      vendoredOne.node? ["vendor", "a", longName] = none ∧
      (run LinkedTree.storage { root := ⟨"/"⟩, buildFileName := longName }
        vendoredOne.linkedTree).result =
          .error (.writing longName "a" (.writeFailed
            ((⟨"/"⟩ : Path).descend ["vendor", "a", longName]) .nameTooLong)) ∧
      (run FlatStore.storage { root := ⟨"/"⟩, buildFileName := longName }
        (FlatStore.filled ⟨"/"⟩ (vendoredOne.additions ⟨"/"⟩))).result =
          .ok [⟨"vendor/a/" ++ longName, []⟩]) ∧
    (vendoredNone.linkedTree.Hosts vendoredNone ⟨"."⟩ [] ∧
      FlatStore.Fills vendoredNone ⟨"/r"⟩ (vendoredNone.additions ⟨"/r"⟩) ∧
      (run LinkedTree.storage { root := ⟨"."⟩ } vendoredNone.linkedTree).result = .ok [] ∧
      (run FlatStore.storage { root := ⟨"."⟩ }
        (FlatStore.filled ⟨"/r"⟩ (vendoredNone.additions ⟨"/r"⟩))).result =
          .error (.discovery (.outside ⟨"/r/vendor"⟩ ⟨"./vendor"⟩))) := by
  have hlinked := run_vendoredOne_of_tooLong isPlainName_longName checkPath_longName length_longName
  have hflat := run_filled_vendoredOne isPlainName_longName
  have hfree : vendoredOne.node? ["vendor", "a", longName] = none := by
    rw [longName_eq]
    decide
  refine ⟨⟨isPlainName_longName, hosts_vendoredOne, ?_, hfree, hlinked, hflat⟩,
    hosts_vendoredNone, ?_, run_vendoredNone, by decide⟩
  · exact vendoredOne.fills_additions (by decide) (by simp [vendoredOne])
  · exact vendoredNone.fills_additions (by decide) (by simp [vendoredNone])

end

end VendorBuild
