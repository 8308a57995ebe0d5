import VendorBuild.Plan
import VendorBuild.Proofs.Declared
import VendorBuild.Text.Pieces

/-!
# Labels in a log

A log shows the labels of a package between brackets and with commas between them. It quotes
nothing, so a comma in a label would be taken for the end of it. The labels of packages found have
no commas beyond those of their cell: no name holds one, and neither does a path that can be
imported. A directory may have a comma in its name, but then nothing imports the package in it, and
no label names its rule.

Results:
* `shownLabels?_eq_some_iff`: which texts show labels, and what they show.
* `isListable_labels`: the labels of packages found can be told from the text that shows them.
* `labels_read_back`: what a log shows of packages found tells their labels.
-/

namespace VendorBuild

/-! ## Reading what is shown -/

/-- The labels that a text between brackets lists: its pieces between commas, and none if there is
no text. -/
def listedLabels (body : String) : List String := if body = "" then [] else pieces ',' body

/-- The labels that a text shows, if it is one in brackets. -/
def shownLabels? (text : String) : Option (List String) := do
  let inner ← text.toList.dropPrefix? ['[']
  let body ← inner.dropSuffix? [']']
  return listedLabels (String.ofList body)

/-- Whether labels can be told from the text that lists them: no label holds a comma, and they are
not a single one without text, which would be taken for none. -/
structure IsListable (labels : List String) : Prop where
  ne_blank : labels ≠ [""]
  comma_notMem : ∀ d ∈ labels, ',' ∉ d.toList

/-- A text lists the labels that make it, if they can be told from it. -/
theorem listedLabels_eq_iff {body : String} {labels : List String} :
    listedLabels body = labels ↔ body = String.intercalate "," labels ∧ IsListable labels := by
  unfold listedLabels
  split
  · rename_i hbody
    rw [hbody]
    constructor
    · rintro rfl
      exact ⟨String.intercalate_nil.symm, by simp, by simp⟩
    · rintro ⟨hjoin, hblank, hcomma⟩
      by_contra hne
      -- a text without characters has one piece, which has none either
      have hpieces : pieces ',' "" = labels :=
        (pieces_eq_iff rfl).2 ⟨hjoin, Ne.symm hne, hcomma⟩
      rw [pieces_of_notMem (by simp)] at hpieces
      exact hblank hpieces.symm
  · rename_i hbody
    rw [@pieces_eq_iff ',' "," rfl]
    constructor
    · rintro ⟨hjoin, -, hcomma⟩
      refine ⟨hjoin, ?_, hcomma⟩
      rintro rfl
      exact hbody (hjoin.trans String.intercalate_singleton)
    · rintro ⟨hjoin, -, hcomma⟩
      refine ⟨hjoin, ?_, hcomma⟩
      rintro rfl
      exact hbody (hjoin.trans String.intercalate_nil)

theorem shownLabels?_eq_some_iff_listedLabels {text : String} {labels : List String} :
    shownLabels? text = some labels ↔
      ∃ body, text = "[" ++ body ++ "]" ∧ listedLabels body = labels := by
  simp only [shownLabels?, Option.bind_eq_bind, Option.bind_eq_some_iff, Option.pure_def,
    Option.some.injEq, List.dropPrefix?_eq_some_iff, List.dropSuffix?_eq_some_iff]
  constructor
  · rintro ⟨inner, ⟨front, htext, hfront⟩, body, ⟨back, rfl, hback⟩, hlabels⟩
    rw [eq_of_beq hfront, eq_of_beq hback] at htext
    refine ⟨String.ofList body, ?_, hlabels⟩
    rw [← String.toList_inj, htext]
    simp
  · rintro ⟨body, rfl, hlabels⟩
    exact ⟨(body ++ "]").toList, ⟨['['], by simp, by simp⟩, body.toList, ⟨[']'], by simp, by simp⟩,
      by rwa [String.ofList_toList]⟩

/-- A text shows labels exactly if a log would show them so and they can be told from it. -/
theorem shownLabels?_eq_some_iff {text : String} {labels : List String} :
    shownLabels? text = some labels ↔ text = showLabels labels ∧ IsListable labels := by
  rw [shownLabels?_eq_some_iff_listedLabels]
  constructor
  · rintro ⟨body, rfl, hlabels⟩
    obtain ⟨rfl, hlistable⟩ := listedLabels_eq_iff.1 hlabels
    exact ⟨rfl, hlistable⟩
  · rintro ⟨rfl, hlistable⟩
    exact ⟨_, rfl, listedLabels_eq_iff.2 ⟨rfl, hlistable⟩⟩

/-! ## Labels of packages found -/

theorem label_ne_empty (cell importPath name : String) : label cell importPath name ≠ "" := by
  simp [label]

theorem comma_notMem_label {cell importPath name : String} (hcell : ',' ∉ cell.toList)
    (hpath : ',' ∉ importPath.toList) (hname : ',' ∉ name.toList) :
    ',' ∉ (label cell importPath name).toList := by
  simp [label, hcell, hpath, hname]

section

variable {σ : Type} {fs : Storage σ} {s : σ} {vendor : Path} {found : Scan} {cell : String}
  {b : Build}

theorem exists_label_of_mem_labels (hscan : scan fs s vendor = .ok found)
    (hb : b ∈ plan found.packages cell) {d : String} (hd : d ∈ b.labels) :
    ∃ importPath name, d = label cell importPath name ∧ IsImportable importPath ∧ IsName name := by
  obtain ⟨p, hp, rfl⟩ := List.mem_map.1 hb
  obtain ⟨e, he, rfl⟩ := List.mem_map.1 hp
  obtain ⟨i, hi, name, hname, rfl⟩ := Package.mem_labels.1 hd
  rw [PackageSet.targetNames, NameMap.find?_map] at hname
  obtain ⟨q, hq, rfl⟩ := Option.map_eq_some_iff.1 hname
  obtain ⟨-, -, hsound⟩ := isSound_of_scan hscan he
  obtain ⟨-, -, hsound'⟩ := isSound_of_scan hscan (NameMap.mem_entries_iff.2 hq)
  exact ⟨i, q.targetName, rfl, (hsound.imports i hi).1, hsound'.isName_targetName⟩

/-- The labels of a package found can be told from the text that shows them, if their cell holds no
comma. -/
theorem isListable_labels (hscan : scan fs s vendor = .ok found) (hcell : ',' ∉ cell.toList)
    (hb : b ∈ plan found.packages cell) : IsListable b.labels := by
  constructor
  · intro hblank
    have hmem : "" ∈ b.labels := by simp [hblank]
    obtain ⟨i, name, hlabel, -, -⟩ := exists_label_of_mem_labels hscan hb hmem
    exact label_ne_empty cell i name hlabel.symm
  · intro d hd
    obtain ⟨i, name, rfl, hpath, hname⟩ := exists_label_of_mem_labels hscan hb hd
    exact comma_notMem_label hcell (hpath.notMem (by decide))
      (hname.notMem (by decide))

/-- A comma in the cell is taken for the end of a label. -/
example : showLabels [label "v/b:b,//v" "c/d" "e"] =
    showLabels [label "v" "b" "b", label "v" "c/d" "e"] := by decide

/-- What a log shows of packages found tells their labels: they are the pieces between its commas.
Of two packages, whatever trees they are found in and whatever storages hold these, a log shows the
same only if their labels are the same, as long as no comma is in the cells. -/
theorem labels_read_back {τ : Type} {fs' : Storage τ} {s' : τ} {vendor' : Path} {found' : Scan}
    {cell' : String} (hscan : scan fs s vendor = .ok found)
    (hscan' : scan fs' s' vendor' = .ok found') (hcell : ',' ∉ cell.toList)
    (hcell' : ',' ∉ cell'.toList) :
    (∀ b ∈ plan found.packages cell, shownLabels? (showLabels b.labels) = some b.labels) ∧
    ∀ b ∈ plan found.packages cell, ∀ b' ∈ plan found'.packages cell',
      showLabels b.labels = showLabels b'.labels → b.labels = b'.labels := by
  have hread : ∀ b ∈ plan found.packages cell,
      shownLabels? (showLabels b.labels) = some b.labels := fun b hb =>
    shownLabels?_eq_some_iff.2 ⟨rfl, isListable_labels hscan hcell hb⟩
  refine ⟨hread, fun b hb b' hb' hshown => ?_⟩
  have hread' : shownLabels? (showLabels b'.labels) = some b'.labels :=
    shownLabels?_eq_some_iff.2 ⟨rfl, isListable_labels hscan' hcell' hb'⟩
  rw [← hshown, hread b hb] at hread'
  exact Option.some.inj hread'

end

/-- A tree with two packages and a third, in a directory of the given name, that imports them. -/
def importing (name : String) : FlatStore :=
  (((FlatStore.empty ⟨"/r"⟩).addFile ⟨"vendor/" ++ name ++ "/p.go"⟩
    (Utf8.encode "package p\nimport (\"b\"; \"c/d\")\n")).addFile ⟨"vendor/b/b.go"⟩
    (Utf8.encode "package b\n")).addFile ⟨"vendor/c/d/e.go"⟩ (Utf8.encode "package e\n")

theorem labels_read_back_importing :
    ∃ found found', scan FlatStore.storage (importing "a") ⟨"/r/vendor"⟩ = .ok found ∧
      scan FlatStore.storage (importing "b,c") ⟨"/r/vendor"⟩ = .ok found' ∧
      (plan found.packages "v").map (fun b => showLabels b.labels) =
        ["[//v/b:b,//v/c/d:e]", "[]", "[]"] ∧
      (plan found'.packages "v").map (fun b => showLabels b.labels) =
        ["[]", "[//v/b:b,//v/c/d:e]", "[]"] ∧
      (∀ b ∈ plan found.packages "v", shownLabels? (showLabels b.labels) = some b.labels) ∧
      ∀ b ∈ plan found.packages "v", ∀ b' ∈ plan found'.packages "v",
        showLabels b.labels = showLabels b'.labels → b.labels = b'.labels := by
  have h : (scan FlatStore.storage (importing "a") ⟨"/r/vendor"⟩).toOption.map
      (fun found => (plan found.packages "v").map fun b => showLabels b.labels) =
        some ["[//v/b:b,//v/c/d:e]", "[]", "[]"] := by decide +kernel
  have h' : (scan FlatStore.storage (importing "b,c") ⟨"/r/vendor"⟩).toOption.map
      (fun found => (plan found.packages "v").map fun b => showLabels b.labels) =
        some ["[]", "[//v/b:b,//v/c/d:e]", "[]"] := by decide +kernel
  obtain ⟨found, hfound, hshown⟩ := Option.map_eq_some_iff.1 h
  obtain ⟨found', hfound', hshown'⟩ := Option.map_eq_some_iff.1 h'
  have hscan := Except.toOption_eq_some_iff.1 hfound
  have hscan' := Except.toOption_eq_some_iff.1 hfound'
  have hcell : ',' ∉ "v".toList := by decide
  obtain ⟨hread, hinjective⟩ := labels_read_back hscan hscan' hcell hcell
  exact ⟨found, found', hscan, hscan', hshown, hshown', hread, hinjective⟩

end VendorBuild
