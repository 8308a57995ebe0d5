import VendorBuild.Proofs.Declared
import VendorBuild.Proofs.Sources
import VendorBuild.Proofs.Utf8

/-!
# The first fault of a directory

The sources of a directory are read in the order of the bytes of their names, whatever the order in
which storage lists them. The first of them that cannot be read, has no header or declares another
name than the very first one decides the fault of the directory. Without such a source the directory
has the name that the first one declares and the imports of all of them.

Results:
* `SourcesInOrder.eq`: the order of reading does not depend on the order of listing.
* `gather_append`: sources are gathered one after the other.
* `directoryContents?_reports_first_fault`: what a directory contains, or which fault it has.
-/

namespace VendorBuild

/-! ## Sources in order -/

/-- Whether some files are the library sources among the entries of a directory, in the order of the
bytes of their names. -/
structure SourcesInOrder (entries files : List DirEntry) : Prop where
  perm : files.Perm (entries.filter fun e => e.type ≠ .directory && isLibrarySource e.name)
  increasing : files.Pairwise fun a b => Utf8.encode a.name < Utf8.encode b.name

variable {entries entries' files files' : List DirEntry}

theorem pairwise_librarySources (entries : List DirEntry) :
    (librarySources entries).Pairwise fun a b => a.name ≤ b.name := by
  have hsorted : (librarySources entries).Pairwise fun a b => decide (a.name ≤ b.name) = true :=
    List.pairwise_mergeSort
      (fun a b c hab hbc => by
        simp only [decide_eq_true_eq] at hab hbc ⊢
        exact String.le_trans hab hbc)
      (fun a b => by simpa using String.le_total a.name b.name) _
  exact hsorted.imp fun h => by simpa using h

theorem sourcesInOrder_librarySources (h : (entries.map (·.name)).Nodup) :
    SourcesInOrder entries (librarySources entries) := by
  have hperm : (librarySources entries).Perm
      (entries.filter fun e => e.type ≠ .directory && isLibrarySource e.name) :=
    List.mergeSort_perm _ _
  have hnodup : ((librarySources entries).map (·.name)).Nodup :=
    (hperm.map _).nodup_iff.2 (h.sublist (List.filter_sublist.map _))
  refine ⟨hperm, ?_⟩
  have hdiffer := List.pairwise_map.1 hnodup
  refine ((pairwise_librarySources entries).and hdiffer).imp fun {a b} hab => ?_
  refine Utf8.encode_lt_encode (String.not_le.1 fun hba => hab.2 ?_)
  exact String.le_antisymm hab.1 hba

/-- The order of reading does not depend on the order of listing. -/
theorem SourcesInOrder.eq (h : SourcesInOrder entries files) (h' : SourcesInOrder entries' files')
    (hperm : entries.Perm entries') : files = files' := by
  refine List.Perm.eq_of_pairwise (fun a b _ _ hab hba => ?_) h.increasing h'.increasing
    ((h.perm.trans (hperm.filter _)).trans h'.perm.symm)
  exact absurd (List.lt_trans hab hba) (List.lt_irrefl _)

/-! ## Gathering up to a fault -/

section

variable {σ : Type} {fs fs' : Storage σ} {s : σ} {dir : Path}

theorem gather_append (before : Contents) (paths more : List Path) :
    gather fs s before (paths ++ more) =
      (gather fs s before paths).bind fun contents => gather fs s contents more := by
  induction paths generalizing before with
  | nil => rfl
  | cons path rest ih =>
    rw [List.cons_append, gather, gather]
    split
    · rfl
    · split
      · rfl
      · exact ih _

/-- Whether a header is that of the file an entry leads to. -/
def HasHeader (fs : Storage σ) (s : σ) (e : DirEntry) (h : Header) : Prop :=
  ∃ bytes, fs.read s e.path = .ok bytes ∧ sourceHeader bytes = .ok h

/-- What is wrong with a source of a directory whose first source is `first`. -/
inductive SourceFault (fs : Storage σ) (s : σ) (first e : DirEntry) : DirectoryFault → Prop
  | unreadable {fault : StorageFault} (h : fs.read s e.path = .error fault) :
    SourceFault fs s first e (.storage fault)
  | headless {bytes : Bytes} {fault : HeaderFault} (hread : fs.read s e.path = .ok bytes)
    (h : sourceHeader bytes = .error fault) : SourceFault fs s first e (.header e.path fault)
  | foreign {a b : Header} (hfirst : HasHeader fs s first a) (h : HasHeader fs s e b)
    (hne : b.packageName ≠ a.packageName) :
    SourceFault fs s first e (.mismatch a.packageName b.packageName)

variable {first e : DirEntry} {a b : Header} {fault : DirectoryFault}

theorem HasHeader.eq (ha : HasHeader fs s e a) (hb : HasHeader fs s e b) : a = b := by
  obtain ⟨bytes, hbytes, hheader⟩ := ha
  obtain ⟨bytes', hbytes', hheader'⟩ := hb
  cases hbytes.symm.trans hbytes'
  exact Except.ok.inj (hheader.symm.trans hheader')

theorem readHeader_eq_ok_iff_hasHeader : readHeader fs s e.path = .ok a ↔ HasHeader fs s e a := by
  rw [readHeader, HasHeader]
  cases hread : fs.read s e.path with
  | error cause => simp only [reduceCtorEq, false_and, exists_const]
  | ok bytes =>
    simp only [Except.ok.injEq, exists_eq_left', sourceHeader]
    cases hheader : Header.ofSource (Utf8.decodeLossy bytes) with
    | error cause => simp only [reduceCtorEq]
    | ok header => simp only [Except.ok.injEq]

theorem SourceFault.of_readHeader (first : DirEntry) (h : readHeader fs s e.path = .error fault) :
    SourceFault fs s first e fault := by
  unfold readHeader at h
  split at h
  · rename_i cause hread
    cases h
    exact .unreadable hread
  · rename_i bytes hread
    split at h
    · rename_i cause hheader
      cases h
      exact .headless hread hheader
    · cases h

/-- The first source is faulty only if it has no header. -/
theorem HasHeader.not_sourceFault_self (h : HasHeader fs s e a) (fault : DirectoryFault) :
    ¬ SourceFault fs s e e fault := by
  rintro (hread | ⟨hread, hheader⟩ | ⟨hfirst, hsource, hne⟩)
  · obtain ⟨bytes, hbytes, -⟩ := h
    cases hbytes.symm.trans hread
  · obtain ⟨bytes, hbytes, hok⟩ := h
    cases hbytes.symm.trans hread
    cases hok.symm.trans hheader
  · exact hne (by rw [hsource.eq hfirst])

/-- Where no source is faulty, each has a header and declares the name of the first. -/
theorem exists_hasHeader_of_faultless (h : ∀ fault, ¬ SourceFault fs s first e fault) :
    ∃ b, HasHeader fs s e b := by
  cases hread : readHeader fs s e.path with
  | error fault => exact absurd (.of_readHeader first hread) (h fault)
  | ok b => exact ⟨b, readHeader_eq_ok_iff_hasHeader.1 hread⟩

theorem packageName_eq_of_faultless (h : ∀ fault, ¬ SourceFault fs s first e fault)
    (hfirst : HasHeader fs s first a) (hb : HasHeader fs s e b) :
    b.packageName = a.packageName := by
  by_contra hne
  exact h _ (.foreign hfirst hb hne)

/-- What the first source and those after it declare together if none of them is faulty. -/
theorem exists_gather_of_faultless {rest : List DirEntry}
    (h : ∀ e ∈ first :: rest, ∀ fault, ¬ SourceFault fs s first e fault) :
    ∃ a c, HasHeader fs s first a ∧
      gather fs s .empty ((first :: rest).map (·.path)) = .ok c ∧
      gatherAll fs s ((first :: rest).map (·.path)) = .ok (some c) ∧ c.name = a.packageName ∧
      ∀ x, x ∈ c.imports ↔
        x ≠ foreignImport ∧ ∃ e ∈ first :: rest, ∃ b, HasHeader fs s e b ∧ x ∈ b.imports := by
  have hread : ∀ b, ReadAmong fs s ((first :: rest).map (·.path)) b ↔
      ∃ e ∈ first :: rest, HasHeader fs s e b := by
    simp [ReadAmong, readHeader_eq_ok_iff_hasHeader]
  obtain ⟨a, hfirst⟩ := exists_hasHeader_of_faultless (h first List.mem_cons_self)
  obtain ⟨contents, hall⟩ : ∃ contents,
      gatherAll fs s ((first :: rest).map (·.path)) = .ok contents := by
    refine exists_gatherAll_eq_ok (fun path hpath => ?_) fun b b' hb hb' => ?_
    · obtain ⟨e, he, rfl⟩ := List.mem_map.1 hpath
      obtain ⟨b, hb⟩ := exists_hasHeader_of_faultless (h e he)
      exact ⟨b, readHeader_eq_ok_iff_hasHeader.2 hb⟩
    · obtain ⟨e, he, hb⟩ := (hread b).1 hb
      obtain ⟨e', he', hb'⟩ := (hread b').1 hb'
      rw [packageName_eq_of_faultless (h e he) hfirst hb,
        packageName_eq_of_faultless (h e' he') hfirst hb']
  obtain ⟨header, c, hheader, hgather, rfl⟩ := exists_gather_of_gatherAll hall
  rw [← gather_empty_cons hheader] at hgather
  have hof : c.IsOf _ := (gathered_of_gatherAll hall).1.congr hread
  refine ⟨a, c, hfirst, hgather, hall, ?_, fun x => ?_⟩
  · exact (hof.name a ⟨first, List.mem_cons_self, hfirst⟩).symm
  · rw [hof.imports]
    refine and_congr_right fun _ => ⟨?_, ?_⟩
    · rintro ⟨b, ⟨e, he, hb⟩, hx⟩
      exact ⟨e, he, b, hb, hx⟩
    · rintro ⟨e, he, b, hb, hx⟩
      exact ⟨b, ⟨e, he, hb⟩, hx⟩

/-- A source that cannot be read or has no header ends the gathering, and so does one that declares
another name than the first if that is the name gathered so far. -/
theorem gather_cons_of_fault {before : Contents} {paths : List Path}
    (h : SourceFault fs s first e fault)
    (hname : ∀ a, HasHeader fs s first a → e ≠ first →
      before.name ≠ "" ∧ before.name = a.packageName) :
    gather fs s before (e.path :: paths) = .error fault := by
  rw [gather]
  cases h with
  | unreadable hread => simp only [readHeader, hread]
  | headless hread hheader =>
    rw [sourceHeader] at hheader
    simp only [readHeader, hread, hheader]
  | foreign hfirst he hne =>
    have hother : e ≠ first := by
      rintro rfl
      exact hne (congrArg _ (he.eq hfirst))
    obtain ⟨hsome, hname⟩ := hname _ hfirst hother
    have hadd : before.add _ = .error (.mismatch before.name _) :=
      (if_neg hsome).trans (if_neg fun heq => hne (heq.symm.trans hname))
    rw [readHeader_eq_ok_iff_hasHeader.2 he]
    simp only [hadd, hname]

/-- A source that is faulty ends the gathering, if none of those before it is. -/
theorem gather_of_fault {before after rest : List DirEntry}
    (hsplit : first :: rest = before ++ e :: after)
    (hbefore : ∀ d ∈ before, ∀ fault, ¬ SourceFault fs s first d fault)
    (h : SourceFault fs s first e fault) :
    gatherAll fs s ((first :: rest).map (·.path)) = .error fault := by
  have hgather : gather fs s .empty ((first :: rest).map (·.path)) = .error fault := by
    rw [hsplit, List.map_append, List.map_cons, gather_append]
    cases before with
    | nil =>
      obtain rfl : first = e := (List.cons.inj hsplit).1
      rw [List.map_nil, gather, Except.bind]
      exact gather_cons_of_fault h fun _ _ hne => absurd rfl hne
    | cons d before =>
      obtain rfl : first = d := (List.cons.inj hsplit).1
      obtain ⟨a, c, hfirst, hgather, -, hname, -⟩ := exists_gather_of_faultless hbefore
      rw [hgather]
      refine gather_cons_of_fault h fun a' hfirst' _ => ?_
      rw [hname, hfirst.eq hfirst']
      exact ⟨(isSound_of_readHeader (readHeader_eq_ok_iff_hasHeader.2 hfirst')).name.ne_empty, rfl⟩
  rw [List.map_cons] at hgather ⊢
  rw [gatherAll_cons, hgather]
  rfl

/-! ## Directories -/

theorem directoryContents?_of_entries (h : fs.entries s dir = .ok entries) :
    directoryContents? fs s dir = gatherAll fs s ((librarySources entries).map (·.path)) := by
  rw [directoryContents?, h]

theorem gatherAll_congr (h : fs'.read = fs.read) (paths : List Path) :
    gatherAll fs' s paths = gatherAll fs s paths := by
  have hgather : ∀ before, gather fs' s before paths = gather fs s before paths := by
    induction paths with
    | nil => exact fun _ => rfl
    | cons path rest ih =>
      intro before
      simp only [gather, readHeader, h, ih]
  rw [gatherAll, gatherAll, hgather]

/-- What a directory contains does not depend on the order in which it is listed, and neither does
its fault. Without sources it contains no package. Otherwise its fault is that of the first source,
in the order of the bytes of the names, that cannot be read, has no header or declares another name
than the very first; if there is none, the directory has the name that the first source declares,
which is not empty, and the imports of all of them except the one that stands for C code. -/
theorem directoryContents?_reports_first_fault (h : fs.entries s dir = .ok entries)
    (hnames : (entries.map (·.name)).Nodup) :
    ∃ files, SourcesInOrder entries files ∧
      (files = [] → directoryContents? fs s dir = .ok none) ∧
      (∀ first rest, files = first :: rest →
        (∀ before e after fault, files = before ++ e :: after →
          (∀ d ∈ before, ∀ fault, ¬ SourceFault fs s first d fault) →
          SourceFault fs s first e fault → directoryContents? fs s dir = .error fault) ∧
        ((∀ e ∈ files, ∀ fault, ¬ SourceFault fs s first e fault) →
          ∃ a c, HasHeader fs s first a ∧ directoryContents? fs s dir = .ok (some c) ∧
            c.name = a.packageName ∧ c.name ≠ "" ∧
            ∀ x, x ∈ c.imports ↔
              x ≠ "C" ∧ ∃ e ∈ files, ∃ b, HasHeader fs s e b ∧ x ∈ b.imports)) ∧
      ∀ (fs' : Storage σ) entries', fs'.read = fs.read → fs'.entries s dir = .ok entries' →
        entries.Perm entries' → directoryContents? fs' s dir = directoryContents? fs s dir := by
  have hgather := directoryContents?_of_entries h
  have hsources := sourcesInOrder_librarySources hnames
  generalize librarySources entries = files at hgather hsources
  refine ⟨files, hsources, ?_, ?_, ?_⟩
  · rintro rfl
    exact hgather
  · rintro first rest rfl
    refine ⟨fun before e after fault hsplit hbefore hfault => ?_, fun hfaultless => ?_⟩
    · rw [hgather, gather_of_fault hsplit hbefore hfault]
    · obtain ⟨a, c, hfirst, -, hcontents, hname, himports⟩ :=
        exists_gather_of_faultless hfaultless
      rw [← hgather] at hcontents
      exact ⟨a, c, hfirst, hcontents, hname,
        (isSound_of_directoryContents? hcontents).name.ne_empty, himports⟩
  · intro fs' entries' hread hentries' hperm
    have hsources' := sourcesInOrder_librarySources ((hperm.map _).nodup_iff.1 hnames)
    rw [hgather, hsources.eq hsources' hperm, directoryContents?_of_entries hentries',
      gatherAll_congr hread]

/-- A directory with two sources that declare different names, the second of them added first. -/
def twoNames : FlatStore :=
  ((FlatStore.empty ⟨"/"⟩).addFile ⟨"p/b.go"⟩ (Utf8.encode "package b\n")).addFile ⟨"p/a.go"⟩
    (Utf8.encode "package a\n")

theorem directoryContents?_twoNames :
    directoryContents? FlatStore.storage twoNames ⟨"/p"⟩ = .error (.mismatch "a" "b") := by
  have hentries : FlatStore.storage.entries twoNames ⟨"/p"⟩ =
      .ok [⟨⟨"/p/b.go"⟩, "b.go", .file⟩, ⟨⟨"/p/a.go"⟩, "a.go", .file⟩] := by decide +kernel
  obtain ⟨files, hfiles, -, hreport, -⟩ :=
    directoryContents?_reports_first_fault hentries (by decide)
  have horder : SourcesInOrder [⟨⟨"/p/b.go"⟩, "b.go", .file⟩, ⟨⟨"/p/a.go"⟩, "a.go", .file⟩]
      [⟨⟨"/p/a.go"⟩, "a.go", .file⟩, ⟨⟨"/p/b.go"⟩, "b.go", .file⟩] :=
    ⟨by decide, List.pairwise_pair.2 (Utf8.encode_lt_encode (by decide))⟩
  obtain ⟨hfault, -⟩ := hreport _ _ (hfiles.eq horder (.refl _))
  have ha : HasHeader FlatStore.storage twoNames ⟨⟨"/p/a.go"⟩, "a.go", .file⟩ ⟨"a", []⟩ :=
    ⟨Utf8.encode "package a\n", by decide +kernel, by decide +kernel⟩
  have hb : HasHeader FlatStore.storage twoNames ⟨⟨"/p/b.go"⟩, "b.go", .file⟩ ⟨"b", []⟩ :=
    ⟨Utf8.encode "package b\n", by decide +kernel, by decide +kernel⟩
  refine hfault [⟨⟨"/p/a.go"⟩, "a.go", .file⟩] _ [] _ (hfiles.eq horder (.refl _)) ?_
    (.foreign ha hb (by decide))
  intro d hd
  rw [List.mem_singleton.1 hd]
  exact ha.not_sourceFault_self

end

end VendorBuild
