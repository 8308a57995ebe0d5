import VendorBuild.Proofs.Declared

/-!
# What sources declare together

The sources of a directory are gathered one after the other, but what they declare together depends
only on which headers they have: one name, which all of them declare, and the imports of any of
them. So it is the same in whatever order they are gathered, and gathering fails only for a source
without a header or for two headers with different names. Every header has a name, so the name
without characters that gathering starts with is replaced by the first source and never comes back.

Results:
* `Contents.IsOf.eq`: headers declare one thing together.
* `gathered_of_gatherAll`: what is gathered is what the headers read declare together.
* `exists_gatherAll_eq_ok`: when sources can be gathered.
-/

namespace VendorBuild

theorem Header.mem_packageImports {h : Header} {x : String} :
    x ∈ h.packageImports ↔ x ≠ foreignImport ∧ x ∈ h.imports := by
  simp [packageImports, and_comm]

/-! ## Together -/

/-- Whether contents are what some headers, at least one, declare together. -/
structure Contents.IsOf (headers : Header → Prop) (c : Contents) : Prop where
  inhabited : ∃ h, headers h
  name : ∀ h, headers h → h.packageName = c.name
  imports : ∀ x, x ∈ c.imports ↔ x ≠ foreignImport ∧ ∃ h, headers h ∧ x ∈ h.imports

/-- Whether contents, or none, are what some headers declare together. -/
def Gathered (headers : Header → Prop) : Option Contents → Prop
  | none => ∀ h, ¬ headers h
  | some c => c.IsOf headers

/-- Whether headers declare the same name. -/
def SameName (headers : Header → Prop) : Prop :=
  ∀ h h', headers h → headers h' → h.packageName = h'.packageName

variable {headers headers' : Header → Prop} {before c d : Contents} {contents : Option Contents}
  {header : Header}

theorem Contents.IsOf.sameName (h : c.IsOf headers) : SameName headers :=
  fun a b ha hb => (h.name a ha).trans (h.name b hb).symm

theorem Contents.IsOf.eq (hc : c.IsOf headers) (hd : d.IsOf headers) : c = d := by
  obtain ⟨h, hh⟩ := hc.inhabited
  have hname : c.name = d.name := (hc.name h hh).symm.trans (hd.name h hh)
  have himports : c.imports = d.imports :=
    NameSet.ext_mem fun x => (hc.imports x).trans (hd.imports x).symm
  cases c
  cases d
  simp_all

theorem Package.eq_of_isOf {p q : Package} (hpath : p.importPath = q.importPath)
    (hp : Contents.IsOf headers ⟨p.name, p.imports⟩)
    (hq : Contents.IsOf headers ⟨q.name, q.imports⟩) : p = q := by
  have heq := hp.eq hq
  cases p
  cases q
  simp_all

/-- What headers declare together is one thing, or nothing. -/
theorem Gathered.eq {contents' : Option Contents} (h : Gathered headers contents)
    (h' : Gathered headers contents') : contents = contents' := by
  cases contents with
  | none =>
    cases contents' with
    | none => rfl
    | some c =>
      obtain ⟨a, ha⟩ := h'.inhabited
      exact absurd ha (h a)
  | some c =>
    cases contents' with
    | none =>
      obtain ⟨a, ha⟩ := h.inhabited
      exact absurd ha (h' a)
    | some c' => rw [Contents.IsOf.eq h h']

theorem Gathered.congr (h : ∀ a, headers a ↔ headers' a) (hc : Gathered headers contents) :
    Gathered headers' contents := by
  rwa [show headers' = headers from funext fun a => propext (h a).symm]

theorem SameName.mono (h : SameName headers) (hsub : ∀ a, headers' a → headers a) :
    SameName headers' :=
  fun a b ha hb => h a b (hsub a ha) (hsub b hb)

theorem SameName.of_gathered (h : Gathered headers contents) : SameName headers := by
  cases contents with
  | none => exact fun a _ ha => absurd ha (h a)
  | some c => exact Contents.IsOf.sameName h

/-! ## One source -/

namespace Contents

theorem isOf_ofHeader (header : Header) : (ofHeader header).IsOf (· = header) := by
  refine ⟨⟨header, rfl⟩, fun a ha => ha ▸ rfl, fun x => ?_⟩
  rw [ofHeader, NameSet.mem_union, Header.mem_packageImports]
  simp

theorem IsOf.add (hb : before.IsOf headers) (hne : before.name ≠ "")
    (h : before.add header = .ok c) :
    c.IsOf (fun a => headers a ∨ a = header) ∧ c.name = before.name := by
  obtain ⟨hname, rfl⟩ := (add_eq_ok_iff hne).1 h
  refine ⟨⟨⟨header, .inr rfl⟩, ?_, fun x => ?_⟩, rfl⟩
  · rintro a (ha | rfl)
    · exact hb.name a ha
    · exact hname.symm
  · rw [NameSet.mem_union, hb.imports, Header.mem_packageImports, ← and_or_left]
    refine and_congr_right fun _ => ⟨?_, ?_⟩
    · rintro (⟨a, ha, hx⟩ | hx)
      · exact ⟨a, .inl ha, hx⟩
      · exact ⟨header, .inr rfl, hx⟩
    · rintro ⟨a, ha | rfl, hx⟩
      · exact .inl ⟨a, ha, hx⟩
      · exact .inr hx

end Contents

/-! ## All sources -/

variable {σ : Type} {fs : Storage σ} {s : σ} {path : Path} {paths : List Path}

/-- Whether a header is read from one of some files. -/
def ReadAmong (fs : Storage σ) (s : σ) (paths : List Path) (h : Header) : Prop :=
  ∃ path ∈ paths, readHeader fs s path = .ok h

theorem readAmong_cons (paths : List Path) (hread : readHeader fs s path = .ok header)
    (h : Header) :
    ReadAmong fs s (path :: paths) h ↔ h = header ∨ ReadAmong fs s paths h := by
  simp [ReadAmong, hread, eq_comm]

/-- What is gathered is what the headers read declare together with those before them. All files
have headers then. -/
theorem Contents.IsOf.gather (hb : before.IsOf headers) (hne : before.name ≠ "")
    (h : gather fs s before paths = .ok c) :
    c.IsOf (fun a => headers a ∨ ReadAmong fs s paths a) ∧
      ∀ path ∈ paths, ∃ header, readHeader fs s path = .ok header := by
  induction paths generalizing before headers with
  | nil =>
    cases h
    have hnil : headers = fun a => headers a ∨ ReadAmong fs s [] a := by simp [ReadAmong]
    exact ⟨hnil ▸ hb, List.forall_mem_nil _⟩
  | cons path rest ih =>
    rw [VendorBuild.gather] at h
    split at h
    · cases h
    rename_i header hread
    split at h
    · cases h
    rename_i d hadd
    obtain ⟨hd, hname⟩ := hb.add hne hadd
    obtain ⟨hrest, hall⟩ := ih hd (hname ▸ hne) h
    refine ⟨?_, List.forall_mem_cons.2 ⟨⟨header, hread⟩, hall⟩⟩
    simpa only [readAmong_cons rest hread, or_assoc] using hrest

/-- Sources can be gathered if all of them have headers, and the headers the same name. -/
theorem exists_gather_eq_ok (hb : before.IsOf headers) (hne : before.name ≠ "")
    (hread : ∀ path ∈ paths, ∃ header, readHeader fs s path = .ok header)
    (hname : SameName fun a => headers a ∨ ReadAmong fs s paths a) :
    ∃ c, gather fs s before paths = .ok c := by
  induction paths generalizing before headers with
  | nil => exact ⟨before, rfl⟩
  | cons path rest ih =>
    obtain ⟨⟨header, hheader⟩, hrest⟩ := List.forall_mem_cons.1 hread
    have hsplit := readAmong_cons rest hheader
    obtain ⟨a, ha⟩ := hb.inhabited
    have hsame : before.name = header.packageName :=
      (hb.name a ha).symm.trans (hname a header (.inl ha) (.inr ((hsplit header).2 (.inl rfl))))
    have hadd := (Contents.add_eq_ok_iff hne).2 ⟨hsame, rfl⟩
    obtain ⟨hc, hkept⟩ := hb.add hne hadd
    simp only [VendorBuild.gather, hheader, hadd]
    refine ih hc (hkept ▸ hne) hrest (hname.mono fun a ha => ?_)
    rwa [hsplit, ← or_assoc]

/-- A header that is read has a name. -/
theorem name_ofHeader_ne_empty (hread : readHeader fs s path = .ok header) :
    (Contents.ofHeader header).name ≠ "" :=
  (isSound_of_readHeader hread).name.ne_empty

/-- What the files of a directory declare together is what their headers do. All of them have
headers then. -/
theorem gathered_of_gatherAll (h : gatherAll fs s paths = .ok contents) :
    Gathered (ReadAmong fs s paths) contents ∧
      ∀ path ∈ paths, ∃ header, readHeader fs s path = .ok header := by
  cases paths with
  | nil =>
    cases h
    refine ⟨?_, List.forall_mem_nil _⟩
    rintro a ⟨path, hmem, -⟩
    cases hmem
  | cons path rest =>
    obtain ⟨header, c, hread, hgather, rfl⟩ := exists_gather_of_gatherAll h
    obtain ⟨hof, hrest⟩ :=
      (Contents.isOf_ofHeader header).gather (name_ofHeader_ne_empty hread) hgather
    refine ⟨?_, List.forall_mem_cons.2 ⟨⟨header, hread⟩, hrest⟩⟩
    exact Gathered.congr (fun a => (readAmong_cons rest hread a).symm) hof

/-- What the files of a directory declare together can be told if all of them have headers, and the
headers the same name. -/
theorem exists_gatherAll_eq_ok
    (hread : ∀ path ∈ paths, ∃ header, readHeader fs s path = .ok header)
    (hname : SameName (ReadAmong fs s paths)) :
    ∃ contents, gatherAll fs s paths = .ok contents := by
  cases paths with
  | nil => exact ⟨none, rfl⟩
  | cons path rest =>
    obtain ⟨⟨header, hheader⟩, hrest⟩ := List.forall_mem_cons.1 hread
    obtain ⟨c, hc⟩ := exists_gather_eq_ok (Contents.isOf_ofHeader header)
      (name_ofHeader_ne_empty hheader) hrest
      (hname.mono fun a ha => (readAmong_cons rest hheader a).2 ha)
    refine ⟨some c, ?_⟩
    rw [gatherAll_cons, gather_empty_cons hheader, hc]
    rfl

end VendorBuild
