import VendorBuild.BuildFile
import VendorBuild.Package.Discovery
import VendorBuild.Proofs.Raw
import Mathlib.Data.List.Basic
import Mathlib.Tactic.ByContra

/-!
# Where paths lead

A path from the top of the file system leads to the place that its steps spell, and a text joined
behind a path adds the steps of the text. An import path spells what the steps from the vendor
directory to a package read as, each with its own name. If their names are texts, it leads to the
package, and no other place below the vendor directory has the same import path; otherwise it leads
where a package would be whose names read the same.

Results:
* `Path.components_join`, `Path.components_join_of_ne_empty`: what joining adds to a place.
* `components_buildPath`: the build file of a package lies one step below where its import path
  leads.
* `importPathOf?_of_components`: the import path of a place.
* `IsImportPath.eq_of_steps_eq`: import paths that spell the same steps are equal.
-/

namespace VendorBuild

open RawText (slash)

/-! ## Steps -/

/-- What is one ordinary step of a path: a name that is not empty, holds no slash, and is not one of
the two names that stand for this directory and the one above. -/
structure IsPlainName (name : RawText) : Prop where
  ne_empty : name ≠ ""
  ne_here : name ≠ "."
  ne_up : name ≠ ".."
  slash_notMem : slash ∉ name.bytes

instance (name : RawText) : Decidable (IsPlainName name) :=
  decidable_of_iff (name ≠ "" ∧ name ≠ "." ∧ name ≠ ".." ∧ slash ∉ name.bytes)
    ⟨fun h => ⟨h.1, h.2.1, h.2.2.1, h.2.2.2⟩,
      fun h => ⟨h.ne_empty, h.ne_here, h.ne_up, h.slash_notMem⟩⟩

/-- An ordinary name reads as one. -/
theorem IsPlainName.text {name : RawText} (h : IsPlainName name) : IsPlainName name.text := by
  -- the special names are clean, so what reads as one of them is one
  have hne : ∀ s : String, '\uFFFD' ∉ s.toList → name ≠ s → (name.text : RawText) ≠ s :=
    fun s hs hname htext => hname (RawText.eq_ofString_of_text (RawText.ofString_inj.1 htext) hs)
  refine ⟨hne _ (by decide) h.ne_empty, hne _ (by decide) h.ne_here, hne _ (by decide) h.ne_up, ?_⟩
  rw [RawText.slash_mem_ofString_iff]
  exact RawText.slash_notMem_text h.slash_notMem

/-- What a raw text adds to the place it is joined behind. -/
def Path.steps (r : RawText) : List Component := r.segments.filterMap Component.ofSegment?

namespace Component

/-- The step that a step reads as. -/
def reading : Component → Component
  | name r => name r.text
  | c => c

/-- Whether a step is spelled as it reads. -/
def IsText (c : Component) : Prop := c.reading = c

instance (c : Component) : Decidable c.IsText := inferInstanceAs (Decidable (_ = _))

/-- Whether a component is a step behind the start of a path. -/
structure IsStep (c : Component) : Prop where
  ofSegment? : Component.ofSegment? c.raw = some c
  slash_notMem : slash ∉ c.raw.bytes

theorem raw_of_ofSegment? {segment : RawText} {c : Component}
    (h : Component.ofSegment? segment = some c) : c.raw = segment := by
  unfold Component.ofSegment? at h
  split at h
  · cases h
  · split at h
    · rename_i hup
      cases h
      exact hup.symm
    · cases h
      rfl

theorem ofSegment?_of_isPlainName {r : RawText} (h : IsPlainName r) :
    Component.ofSegment? r = some (.name r) := by
  rw [Component.ofSegment?,
    if_neg (by simp only [h.ne_empty, h.ne_here, or_self, not_false_eq_true]), if_neg h.ne_up]

theorem isStep_name {r : RawText} (h : IsPlainName r) : (name r).IsStep :=
  ⟨ofSegment?_of_isPlainName h, h.slash_notMem⟩

/-- A step is the one to the directory above or an ordinary name. -/
theorem IsStep.eq_up_or {c : Component} (h : c.IsStep) :
    c = up ∨ ∃ r, c = name r ∧ IsPlainName r := by
  obtain ⟨hc, hslash⟩ := h
  unfold Component.ofSegment? at hc
  split_ifs at hc with hempty hup
  · exact .inl (Option.some.inj hc).symm
  · refine .inr ⟨c.raw, (Option.some.inj hc).symm, ?_, ?_, hup, hslash⟩
    · exact fun h => hempty (.inl h)
    · exact fun h => hempty (.inr h)

theorem IsStep.reading {c : Component} (h : c.IsStep) : c.reading.IsStep := by
  obtain rfl | ⟨r, rfl, hr⟩ := h.eq_up_or
  · exact h
  · exact isStep_name hr.text

@[simp] theorem text_reading (c : Component) : c.reading.text = c.text := by
  cases c with
  | name r => exact RawText.text_ofString _
  | _ => rfl

theorem IsStep.raw_reading {c : Component} (h : c.IsStep) : c.reading.raw = c.text := by
  obtain rfl | ⟨r, rfl, -⟩ := h.eq_up_or
  · decide +kernel
  · rfl

theorem isText_reading (c : Component) : c.reading.IsText := by
  cases c with
  | name r => rw [IsText, reading, reading, RawText.text_ofString]
  | _ => rfl

theorem isText_name (s : String) : (name s).IsText := by
  rw [IsText, reading, RawText.text_ofString]

/-- Steps that are spelled as they read are the ones they read as. -/
theorem map_reading_eq_self_iff {cs : List Component} :
    cs.map reading = cs ↔ ∀ c ∈ cs, c.IsText := by
  conv_lhs => rhs; rw [← List.map_id cs]
  exact List.map_inj_left

end Component

namespace Path

/-- A step can be spelled, and its spelling means that step. -/
theorem isStep_of_mem_steps {r : RawText} {c : Component} (h : c ∈ steps r) : c.IsStep := by
  obtain ⟨segment, hmem, hc⟩ := List.mem_filterMap.1 h
  have hraw := Component.raw_of_ofSegment? hc
  exact ⟨hraw ▸ hc, hraw ▸ RawText.slash_notMem_of_mem_segments hmem⟩

theorem steps_append_slash (a b : RawText) : steps (a ++ "/" ++ b) = steps a ++ steps b := by
  rw [steps, RawText.segments_append_slash, List.filterMap_append]
  rfl

theorem steps_slash_end (r : RawText) : steps (r ++ "/") = steps r := by
  rw [steps, RawText.segments_slash_end, List.filterMap_append]
  exact List.append_nil _

theorem steps_of_notMem {r : RawText} (h : slash ∉ r.bytes) :
    steps r = [r].filterMap Component.ofSegment? := by
  rw [steps, RawText.segments_of_notMem h]

theorem steps_of_isPlainName {r : RawText} (h : IsPlainName r) : steps r = [.name r] := by
  rw [steps_of_notMem h.slash_notMem]
  simp [Component.ofSegment?_of_isPlainName h]

theorem steps_ofString (s : String) :
    steps s = ((pieces '/' s).map RawText.ofString).filterMap Component.ofSegment? := by
  rw [steps, RawText.segments_ofString]

/-! ## Joining -/

/-- From the top, a path leads where its steps lead. -/
theorem components_of_isAbsolute {p : Path} (h : p.isAbsolute = true) :
    p.components = .top :: steps p.raw := by
  rw [components, start, if_pos h]
  rfl

theorem isAbsolute_of_components {p : Path} {rest : List Component}
    (h : p.components = .top :: rest) : p.isAbsolute = true := by
  by_contra ha
  have hmem : Component.top ∈ p.components := by simp [h]
  rw [components, start, if_neg ha] at hmem
  rcases List.mem_append.1 hmem with hm | hm
  · split at hm <;> simp at hm
  · obtain hup | ⟨r, hname, -⟩ := (isStep_of_mem_steps hm).eq_up_or
    · cases hup
    · cases hname

theorem raw_ne_empty {p : Path} (h : p.isAbsolute = true) : p.raw ≠ "" := by
  intro he
  rw [isAbsolute, he] at h
  cases h

theorem bytes_ne_nil {r : RawText} (h : r ≠ "") : r.bytes ≠ [] :=
  fun hnil => h (RawText.ext_bytes hnil)

theorem isAbsolute_append {r : RawText} (h : r ≠ "") (more : RawText) :
    (⟨r ++ more⟩ : Path).isAbsolute = (⟨r⟩ : Path).isAbsolute := by
  rw [isAbsolute, isAbsolute, RawText.bytes_append, List.head?_append_of_ne_nil _ (bytes_ne_nil h)]

theorem append_slash_ne_empty (r : RawText) : r ++ "/" ≠ "" := by
  intro h
  have hbytes : r.bytes ++ [slash] = [] := congrArg RawText.bytes h
  simp at hbytes

/-- What comes behind a slash does not change where a path starts. -/
theorem start_append_slash (r more : RawText) :
    (⟨r ++ "/" ++ more⟩ : Path).start = (⟨r ++ "/"⟩ : Path).start := by
  have hfirst := RawText.segments_ne_nil r
  rw [start, start, isAbsolute_append (append_slash_ne_empty r), RawText.segments_append_slash,
    RawText.segments_slash_end, List.head?_append_of_ne_nil _ hfirst,
    List.head?_append_of_ne_nil _ hfirst]

theorem start_slash_end {r : RawText} (h : r ≠ "") :
    (⟨r ++ "/"⟩ : Path).start = (⟨r⟩ : Path).start := by
  have hfirst := RawText.segments_ne_nil r
  rw [start, start, isAbsolute_append h, RawText.segments_slash_end,
    List.head?_append_of_ne_nil _ hfirst]

theorem isAbsolute_iff_start {p : Path} : p.isAbsolute = true ↔ p.start = [.top] := by
  unfold start
  by_cases h : p.isAbsolute = true
  · simp [h]
  · rw [if_neg h]
    split <;> simp [h]

/-- Behind a path without text a path is joined as it is. -/
theorem join_of_raw_eq_empty {p q : Path} (hp : p.raw = "") : p.join q = q := by
  unfold join
  split
  · rfl
  · rw [if_pos (.inl hp), hp, RawText.empty_append]

/-- A path that is joined behind another is spelled behind a slash, which may be there already. -/
theorem exists_join_eq {p q : Path} (hp : p.raw ≠ "") (hq : q.isAbsolute = false) :
    ∃ front : RawText, p.join q = ⟨front ++ "/" ++ q.raw⟩ ∧
      (p.raw = front ++ "/" ∨ p.raw = front) := by
  by_cases hslash : p.raw.bytes.getLast? = some slash
  · obtain ⟨bytes, hbytes⟩ := List.getLast?_eq_some_iff.1 hslash
    have hfront : p.raw = (⟨bytes⟩ : RawText) ++ "/" := RawText.ext_bytes hbytes
    refine ⟨⟨bytes⟩, ?_, .inl hfront⟩
    rw [join, if_neg (by simp [hq]), if_pos (.inr hslash), hfront]
  · refine ⟨p.raw, ?_, .inr rfl⟩
    rw [join, if_neg (by simp [hq]), if_neg (by simp [hp, hslash])]

/-- A path that is joined behind another starts where that starts, and adds its steps. -/
theorem components_join_of_ne_empty {p q : Path} (hp : p.raw ≠ "") (hq : q.isAbsolute = false) :
    (p.join q).raw ≠ "" ∧ (p.join q).start = p.start ∧
      (p.join q).components = p.components ++ steps q.raw := by
  obtain ⟨front, hjoin, hfront⟩ := exists_join_eq hp hq
  have hstart : (p.join q).start = p.start := by
    rw [hjoin, start_append_slash]
    obtain hslash | hplain := hfront
    · rw [← hslash]
    · rw [start_slash_end (hplain ▸ hp), ← hplain]
  have hsteps : steps (front ++ "/" ++ q.raw) = steps p.raw ++ steps q.raw := by
    obtain hslash | hplain := hfront
    · rw [hslash, steps_slash_end, steps_append_slash]
    · rw [hplain, steps_append_slash]
  refine ⟨?_, hstart, ?_⟩
  · intro he
    have hbytes := congrArg RawText.bytes (hjoin ▸ he)
    have hnil := (List.append_eq_nil_iff.1 hbytes).1
    exact append_slash_ne_empty front (RawText.ext_bytes hnil)
  · rw [components, hstart, components, List.append_assoc, ← steps, ← steps, ← hsteps, hjoin]

theorem components_join {p q : Path} (hp : p.isAbsolute = true) (hq : q.isAbsolute = false) :
    (p.join q).isAbsolute = true ∧ (p.join q).components = p.components ++ steps q.raw := by
  obtain ⟨-, hstart, hcomp⟩ := components_join_of_ne_empty (raw_ne_empty hp) hq
  rw [isAbsolute_iff_start] at hp ⊢
  exact ⟨hstart.trans hp, hcomp⟩

theorem isAbsolute_of_notMem {r : RawText} (h : slash ∉ r.bytes) :
    (⟨r⟩ : Path).isAbsolute = false := by
  rw [isAbsolute, decide_eq_false_iff_not]
  exact fun hs => h (List.mem_of_head? hs)

theorem components_join_name {p : Path} {name : RawText} (hp : p.isAbsolute = true)
    (hn : IsPlainName name) : (p / name).components = p.components ++ [.name name] := by
  rw [slash_def, (components_join hp (isAbsolute_of_notMem hn.slash_notMem)).2,
    steps_of_isPlainName hn]

/-- Segments that are joined one after the other add their steps. -/
theorem components_foldl_segments {p : Path} (hp : p.raw ≠ "") {texts : List String}
    (h : ∀ t ∈ texts, '/' ∉ t.toList) :
    (texts.foldl (· / ·) p).raw ≠ "" ∧ (texts.foldl (· / ·) p).start = p.start ∧
      (texts.foldl (· / ·) p).components =
        p.components ++ (texts.map RawText.ofString).filterMap Component.ofSegment? := by
  induction texts generalizing p with
  | nil => exact ⟨hp, rfl, by simp⟩
  | cons t texts ih =>
    have ht : slash ∉ (t : RawText).bytes :=
      mt RawText.slash_mem_ofString_iff.1 (h t List.mem_cons_self)
    obtain ⟨hne, hstart, hcomp⟩ := components_join_of_ne_empty hp (isAbsolute_of_notMem ht)
    obtain ⟨hne', hstart', hcomp'⟩ := ih hne fun u hu => h u (List.mem_cons_of_mem _ hu)
    refine ⟨hne', hstart'.trans hstart, ?_⟩
    rw [List.foldl_cons, slash_ofString, slash_def, hcomp', hcomp, steps_of_notMem ht,
      List.append_assoc, ← List.filterMap_append, List.map_cons, List.singleton_append]

end Path

/-- A build file whose name holds no slash lies behind its vendor directory by the steps of the path
of its package and of the name. -/
theorem components_buildPath_of_ne_empty {vendor : Path} {name : String} (hv : vendor.raw ≠ "")
    (hn : slash ∉ (name : RawText).bytes) (importPath : String) :
    (buildPath vendor importPath name).start = vendor.start ∧
      (buildPath vendor importPath name).components =
        vendor.components ++ Path.steps importPath ++ Path.steps name := by
  obtain ⟨hne, hstart, hcomp⟩ := Path.components_foldl_segments hv
    fun t (ht : t ∈ pieces '/' importPath) => notMem_of_mem_pieces ht
  obtain ⟨-, hstart', hcomp'⟩ :=
    Path.components_join_of_ne_empty hne (Path.isAbsolute_of_notMem hn)
  refine ⟨hstart'.trans hstart, ?_⟩
  rw [buildPath, Path.slash_ofString, Path.slash_def, hcomp', hcomp, Path.steps_ofString importPath]

theorem components_buildPath_of_notMem {vendor : Path} {name : String}
    (hv : vendor.isAbsolute = true) (hn : slash ∉ (name : RawText).bytes) (importPath : String) :
    (buildPath vendor importPath name).isAbsolute = true ∧
      (buildPath vendor importPath name).components =
        vendor.components ++ Path.steps importPath ++ Path.steps name := by
  obtain ⟨hstart, hcomp⟩ := components_buildPath_of_ne_empty (Path.raw_ne_empty hv) hn importPath
  rw [Path.isAbsolute_iff_start] at hv ⊢
  exact ⟨hstart.trans hv, hcomp⟩

/-- The build file of a package lies one step below the directory its import path leads to. -/
theorem components_buildPath {vendor : Path} {name : String} (hv : vendor.isAbsolute = true)
    (hn : IsPlainName name) (importPath : String) :
    (buildPath vendor importPath name).isAbsolute = true ∧
      (buildPath vendor importPath name).components =
        vendor.components ++ Path.steps importPath ++ [.name name] := by
  rw [← Path.steps_of_isPlainName hn]
  exact components_buildPath_of_notMem hv hn.slash_notMem importPath

/-! ## Import paths -/

/-- Whether a text is what the steps it spells are joined to, so that nothing in it is without
meaning: no empty segment and no single dot. -/
def IsImportPath (importPath : String) : Prop :=
  String.intercalate "/" ((Path.steps importPath).map Component.text) = importPath

/-- The path that some steps make up, as it reads. -/
def spelledPath (steps : List Component) : String :=
  String.intercalate "/" (steps.map Component.text)

theorem importPathOf?_of_components {vendor dir : Path} {steps : List Component}
    (h : dir.components = vendor.components ++ steps) :
    importPathOf? vendor dir = some (spelledPath steps) := by
  have hunder : Path.isUnder vendor dir = true :=
    List.isPrefixOf_iff_prefix.2 (h ▸ List.prefix_append ..)
  rw [importPathOf?, Path.stepsFrom?, if_pos hunder, h, List.drop_left]
  rfl

/-- A directory with an import path lies at the vendor directory or below it, and the path is made
of the steps that lead there. -/
theorem exists_steps_of_importPathOf? {vendor dir : Path} {importPath : String}
    (h : importPathOf? vendor dir = some importPath) :
    ∃ steps, dir.components = vendor.components ++ steps ∧ importPath = spelledPath steps := by
  obtain ⟨steps, hsteps, rfl⟩ := Option.map_eq_some_iff.1 h
  unfold Path.stepsFrom? at hsteps
  split at hsteps
  · rename_i hunder
    obtain ⟨more, hmore⟩ := List.isPrefixOf_iff_prefix.1 hunder
    rw [← hmore, List.drop_left, Option.some.injEq] at hsteps
    exact ⟨steps, by rw [← hmore, hsteps], rfl⟩
  · cases hsteps

theorem isAbsolute_of_below {vendor dir : Path} {steps : List Component}
    (hv : vendor.isAbsolute = true) (h : dir.components = vendor.components ++ steps) :
    dir.isAbsolute = true := by
  rw [Path.components_of_isAbsolute hv] at h
  exact Path.isAbsolute_of_components h

/-- What lies below a place from the top is reached by steps. -/
theorem isStep_of_below {vendor dir : Path} {steps : List Component}
    (hv : vendor.isAbsolute = true) (h : dir.components = vendor.components ++ steps) :
    ∀ c ∈ steps, c.IsStep := by
  have hdir := isAbsolute_of_below hv h
  rw [Path.components_of_isAbsolute hv, Path.components_of_isAbsolute hdir, List.cons_append,
    List.cons.injEq] at h
  intro c hc
  apply @Path.isStep_of_mem_steps dir.raw
  rw [h.2]
  exact List.mem_append_right _ hc

/-- Steps that are spelled out are read back, each as it reads. -/
theorem steps_spelledPath {steps : List Component} (h : ∀ c ∈ steps, c.IsStep) :
    Path.steps (spelledPath steps) = steps.map Component.reading := by
  by_cases hne : steps = []
  · subst hne
    decide
  rw [spelledPath, Path.steps_ofString, pieces_intercalate rfl (by simpa using hne)]
  · rw [List.map_map, List.filterMap_map, ← List.filterMap_eq_map]
    refine List.filterMap_congr fun c hc => ?_
    have hread := (h c hc).reading.ofSegment?
    rwa [(h c hc).raw_reading] at hread
  · intro t ht
    obtain ⟨c, hc, rfl⟩ := List.mem_map.1 ht
    exact RawText.slash_notMem_text (h c hc).slash_notMem

theorem isImportPath_spelledPath {steps : List Component} (h : ∀ c ∈ steps, c.IsStep) :
    IsImportPath (spelledPath steps) := by
  have htext : Component.text ∘ Component.reading = Component.text :=
    funext Component.text_reading
  rw [IsImportPath, steps_spelledPath h, List.map_map, htext]
  rfl

theorem spelledPath_eq_iff {steps steps' : List Component} (h : ∀ c ∈ steps, c.IsStep)
    (h' : ∀ c ∈ steps', c.IsStep) :
    spelledPath steps = spelledPath steps' ↔
      steps.map Component.reading = steps'.map Component.reading := by
  constructor
  · intro heq
    rw [← steps_spelledPath h, heq, steps_spelledPath h']
  · intro heq
    have hread := congrArg (List.map Component.text) heq
    simp only [List.map_map, Function.comp_def, Component.text_reading] at hread
    rw [spelledPath, spelledPath, hread]

theorem spelledPath_eq_empty_iff {steps : List Component} (h : ∀ c ∈ steps, c.IsStep) :
    spelledPath steps = "" ↔ steps = [] := by
  constructor
  · intro hempty
    have hread := steps_spelledPath h
    rw [hempty] at hread
    exact List.map_eq_nil_iff.1 hread.symm
  · rintro rfl
    rfl

namespace IsImportPath

variable {a b name : String}

theorem eq_of_steps_eq (ha : IsImportPath a) (hb : IsImportPath b)
    (h : Path.steps a = Path.steps b) : a = b := by
  rw [← ha, ← hb, h]

theorem steps_ne_nil (ha : IsImportPath a) (hne : a ≠ "") : Path.steps a ≠ [] := by
  intro h
  apply hne
  rw [← ha, h]
  rfl

theorem isAbsolute_eq_false (ha : IsImportPath a) : (⟨a⟩ : Path).isAbsolute = false := by
  cases hs : Path.steps a with
  | nil =>
    rw [← ha, hs]
    decide
  | cons c cs =>
    have hc : c.IsStep := Path.isStep_of_mem_steps (hs ▸ List.mem_cons_self)
    -- the first step reads as a text that is not empty and holds no slash
    have hslash : slash ∉ (c.text : RawText).bytes := hc.raw_reading ▸ hc.reading.slash_notMem
    have hne : (c.text : RawText) ≠ "" := by
      intro he
      have hread := hc.reading.ofSegment?
      rw [hc.raw_reading, he] at hread
      cases hread
    rw [← ha, hs, List.map_cons, ← String.append_empty (s := c.text),
      String.intercalate_cons_append, RawText.ofString_append, Path.isAbsolute_append hne,
      Path.isAbsolute_of_notMem hslash]

/-- Where the build file of the package at an import path lies, one step below its directory. -/
theorem components_join_join {vendor : Path} (ha : IsImportPath a) (hv : vendor.isAbsolute = true)
    (hn : IsPlainName name) :
    (vendor / a / name).components = vendor.components ++ Path.steps a ++ [.name name] := by
  obtain ⟨habs, hcomp⟩ := Path.components_join hv ha.isAbsolute_eq_false
  rw [← Path.slash_def] at habs hcomp
  rw [Path.slash_ofString, Path.slash_ofString, Path.components_join_name habs hn, hcomp]

/-- One import path lies an ordinary step below another exactly if it continues it by a slash and
the name of that step. -/
theorem steps_eq_append_iff (ha : IsImportPath a) (hb : IsImportPath b) (hne : a ≠ "")
    (hn : IsPlainName name) :
    Path.steps b = Path.steps a ++ [.name name] ↔ b = a ++ "/" ++ name := by
  constructor
  · intro h
    rw [← hb, h, List.map_append, List.map_singleton, String.intercalate_append_of_ne_nil
      (by simpa using ha.steps_ne_nil hne) (by simp), String.intercalate_singleton, ha]
    rw [Component.text, Component.raw, RawText.text_ofString]
  · rintro rfl
    rw [RawText.ofString_append, RawText.ofString_append, Path.steps_append_slash,
      Path.steps_of_isPlainName hn]

end IsImportPath

end VendorBuild
