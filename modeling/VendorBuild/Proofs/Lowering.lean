import VendorBuild.Proofs.Utf8
import VendorBuild.Text.Lowercase

/-!
# Texts in lower case

The small letters that capitals are mapped to are no capitals themselves: the images of every run of
capitals miss all runs, either as a whole or, where small letters and capitals alternate, each by
one. So nothing is left to lower in a text in lower case, and as no capital sigma is left either,
the characters around one do not matter.

Results:
* `mem_lowerChar`: the lower case of a character is small.
* `mem_lowerAfter`: a text in lower case has small characters only.
* `lowercase_lowercase`: a text in lower case stays as it is in lower case.
-/

namespace VendorBuild.Text

/-! ## Runs of capitals -/

namespace CaseRun

/-- Whether a code point is one of the capitals of a run. -/
def Holds (r : CaseRun) (n : Nat) : Prop :=
  r.first ≤ n ∧ n ≤ r.last ∧ (n - r.first) % r.step = 0

/-- The last code point that a capital of the run can be mapped to. -/
def smallLast (r : CaseRun) : Nat := r.small + (r.last - r.first)

/-- Whether the small letters of a run alternate with the capitals of another. -/
def alternates (r other : CaseRun) : Bool :=
  (r.step = 2 || r.first = r.last) && other.step = 2 && (r.small + other.first) % 2 = 1

/-- Whether no small letter of a run is a capital of the runs in an increasing list, looking through
it up to where all capitals are greater. -/
def misses (r : CaseRun) : List CaseRun → Bool
  | [] => true
  | other :: rest =>
    if other.last < r.small then r.misses rest
    else if r.smallLast < other.first then true
    else r.alternates other && r.misses rest

/-- The small letters of a run have no small letters of their own. -/
theorem smallOf?_eq_none_of_misses {r : CaseRun} {n : Nat} (hn : r.Holds n) {runs : List CaseRun}
    (h : r.misses runs = true) : smallOf? (r.small + (n - r.first)) runs = none := by
  obtain ⟨hfirst, hlast, hstep⟩ := hn
  induction runs with
  | nil => rfl
  | cons other rest ih =>
    rw [misses] at h
    rw [smallOf?]
    split_ifs at h with hbehind hfront
    · rw [if_neg (show ¬ r.small + (n - r.first) ≤ other.last by omega), ih h, ite_self]
    · rw [if_pos (show r.small + (n - r.first) < other.first by unfold smallLast at hfront; omega)]
    · obtain ⟨halternates, hrest⟩ := Bool.and_eq_true_iff.1 h
      have hodd (hle : other.first ≤ r.small + (n - r.first)) :
          (r.small + (n - r.first) - other.first) % other.step ≠ 0 := by
        simp only [alternates, Bool.and_eq_true, Bool.or_eq_true, decide_eq_true_eq] at halternates
        obtain ⟨⟨hr, hother⟩, hparity⟩ := halternates
        rw [hother]
        obtain hr | hr := hr
        · rw [hr] at hstep
          omega
        · omega
      split_ifs with hless hin hzero
      · rfl
      · exact absurd hzero (hodd (Nat.not_lt.1 hless))
      · exact ih hrest
      · exact ih hrest

end CaseRun

/-- The small letter of a code point is that of a run that holds it. -/
theorem exists_of_smallOf? {n m : Nat} {runs : List CaseRun} (h : smallOf? n runs = some m) :
    ∃ r ∈ runs, r.Holds n ∧ m = r.small + (n - r.first) := by
  induction runs with
  | nil => cases h
  | cons r rest ih =>
    have hrest (h : smallOf? n rest = some m) :
        ∃ r' ∈ r :: rest, r'.Holds n ∧ m = r'.small + (n - r'.first) := by
      obtain ⟨r', hr', hholds⟩ := ih h
      exact ⟨r', List.mem_cons_of_mem r hr', hholds⟩
    rw [smallOf?] at h
    split_ifs at h with hfirst hlast hstep
    · cases h
      exact ⟨r, List.mem_cons_self, ⟨Nat.not_lt.1 hfirst, hlast, hstep⟩, rfl⟩
    · exact hrest h
    · exact hrest h

/-! ## Small characters -/

/-- Whether lower-casing leaves a character as it is, wherever it stands. -/
structure IsSmall (c : Char) : Prop where
  ne_sigma : c ≠ 'Σ'
  lower : lowerChar c = [c]

theorem IsSmall.of_smallOf? {c : Char} (hsigma : c ≠ 'Σ') (hdotted : c ≠ '\u0130')
    (h : smallOf? c.toNat caseRuns = none) : IsSmall c :=
  ⟨hsigma, by rw [lowerChar, if_neg hdotted, h]⟩

/-- Whether the small letters of a run are characters, none of which is a capital. -/
def CaseRun.IsSettled (r : CaseRun) : Prop :=
  (r.smallLast < 0xD800 ∨ 0xDFFF < r.small ∧ r.smallLast < 0x110000) ∧
    (r.smallLast < 0x130 ∨ 0x130 < r.small) ∧ (r.smallLast < 0x3A3 ∨ 0x3A3 < r.small) ∧
    r.misses caseRuns = true

instance (r : CaseRun) : Decidable r.IsSettled := by unfold CaseRun.IsSettled; infer_instance

theorem isSettled_of_mem_caseRuns {r : CaseRun} (h : r ∈ caseRuns) : r.IsSettled := by
  have hall : caseRuns.all (fun r => decide r.IsSettled) = true := by decide +kernel
  exact of_decide_eq_true (List.all_eq_true.1 hall r h)

theorem isSmall_of_holds {r : CaseRun} {n : Nat} (hr : r ∈ caseRuns) (hn : r.Holds n) :
    IsSmall (Char.ofNat (r.small + (n - r.first))) := by
  obtain ⟨hchar, hdotted, hsigma, hruns⟩ := isSettled_of_mem_caseRuns hr
  have hle : r.small + (n - r.first) ≤ r.smallLast := by
    have hlast := hn.2.1
    unfold CaseRun.smallLast
    omega
  have hvalid : (Char.ofNat (r.small + (n - r.first))).toNat = r.small + (n - r.first) := by
    apply Utf8.toNat_ofNat
    unfold Nat.isValidChar
    omega
  -- the two capitals that are in no run
  have hne {c : Char} (h : r.smallLast < c.toNat ∨ c.toNat < r.small) :
      Char.ofNat (r.small + (n - r.first)) ≠ c := by
    rintro rfl
    rw [hvalid] at h
    omega
  refine .of_smallOf? (hne hsigma) (hne hdotted) ?_
  rw [hvalid]
  exact CaseRun.smallOf?_eq_none_of_misses hn hruns

/-- The lower case of a character other than the capital sigma is small. -/
theorem mem_lowerChar {c d : Char} (hsigma : c ≠ 'Σ') (h : d ∈ lowerChar c) : IsSmall d := by
  unfold lowerChar at h
  split at h
  · have hsmall : smallOf? 'i'.toNat caseRuns = none ∧ smallOf? '\u0307'.toNat caseRuns = none := by
      decide
    obtain rfl | hd := List.mem_cons.1 h
    · exact .of_smallOf? (by decide) (by decide) hsmall.1
    · rw [List.mem_singleton.1 hd]
      exact .of_smallOf? (by decide) (by decide) hsmall.2
  · rename_i hdotted
    split at h <;> rename_i hsmall
    · obtain ⟨r, hr, hholds, rfl⟩ := exists_of_smallOf? hsmall
      rw [List.mem_singleton.1 h]
      exact isSmall_of_holds hr hholds
    · rw [List.mem_singleton.1 h]
      exact .of_smallOf? hsigma hdotted hsmall

/-! ## Texts -/

theorem mem_lowerAfter {before cs : List Char} {d : Char} (h : d ∈ lowerAfter before cs) :
    IsSmall d := by
  induction cs generalizing before with
  | nil => cases h
  | cons c rest ih =>
    rw [lowerAfter] at h
    obtain h | h := List.mem_append.1 h
    · split_ifs at h with hsigma hfinal
      · rw [List.mem_singleton.1 h]
        exact .of_smallOf? (by decide) (by decide) (by decide)
      · rw [List.mem_singleton.1 h]
        exact .of_smallOf? (by decide) (by decide) (by decide)
      · exact mem_lowerChar hsigma h
    · exact ih h

theorem lowerAfter_of_isSmall {before cs : List Char} (h : ∀ c ∈ cs, IsSmall c) :
    lowerAfter before cs = cs := by
  induction cs generalizing before with
  | nil => rfl
  | cons c rest ih =>
    obtain ⟨hc, hrest⟩ := List.forall_mem_cons.1 h
    rw [lowerAfter, if_neg hc.ne_sigma, hc.lower, ih hrest]
    rfl

/-- A text in lower case stays as it is in lower case. -/
theorem lowercase_lowercase (s : String) : lowercase (lowercase s) = lowercase s := by
  rw [lowercase, lowercase, String.toList_ofList, lowerAfter_of_isSmall fun c => mem_lowerAfter]

end VendorBuild.Text
