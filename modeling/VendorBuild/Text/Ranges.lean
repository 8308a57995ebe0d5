/-!
# Sets of code points as ranges

A class of characters is a list of inclusive ranges of code points in increasing order, so looking
a character up stops at the first range that lies above it.

Results:
* `CodeRanges.contains_of_mem`: a code point found is in one of the ranges.
-/

namespace VendorBuild

/-- Inclusive ranges of code points, in increasing order and not overlapping. -/
abbrev CodeRanges := List (Nat × Nat)

namespace CodeRanges

/-- Whether code point `n` lies in one of the ranges. -/
def contains (n : Nat) : CodeRanges → Bool
  | [] => false
  | (first, last) :: rest => if n < first then false else if n ≤ last then true else contains n rest

/-- A code point that is found lies between the ends of a listed range. -/
theorem contains_of_mem {n : Nat} {ranges : CodeRanges} (h : contains n ranges = true) :
    ∃ r ∈ ranges, r.1 ≤ n ∧ n ≤ r.2 := by
  induction ranges with
  | nil => simp [contains] at h
  | cons r rest ih =>
    obtain ⟨first, last⟩ := r
    rw [contains] at h
    split at h
    · cases h
    · split at h
      · exact ⟨(first, last), by simp, by simp; omega⟩
      · obtain ⟨r, hr, hn⟩ := ih h
        exact ⟨r, by simp [hr], hn⟩

end CodeRanges

end VendorBuild
