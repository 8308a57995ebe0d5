import VendorBuild.Source.Literal
import VendorBuild.Text.Blank

/-!
# Import paths

The value of a literal is an import path if it is not empty and holds no white space, no control
character and none of the marks that the language keeps out of import paths.

Results:
* `ImportPath.ofLiteral_eq_ok_iff`: which literals are import paths, and of what text.
-/

namespace VendorBuild.ImportPath

open Text

/-- The marks that no import path holds. The replacement character is among them, so text that was
    not UTF-8 is never taken for an import path. -/
def illegalMarks : List Char := "!\"#$%&'()*,:;<=>?[\\]^\x7b|\x7d`\uFFFD".toList

/-- Whether no import path holds a character. -/
def isIllegal (c : Char) : Bool := isControl c || isBlank c || illegalMarks.contains c

/-- The import path that a literal spells. -/
def ofLiteral (literal : String) : Except LiteralFault String :=
  match Literal.value literal with
  | .error fault => .error fault
  | .ok path =>
    if path = "" then .error .emptyPath
    else match path.toList.find? isIllegal with
      | some c => .error (.illegalCharacter c)
      | none => .ok path

/-- A literal spells an import path exactly when its value is that path, is not empty, and holds no
    illegal character. -/
theorem ofLiteral_eq_ok_iff {literal path : String} :
    ofLiteral literal = .ok path ↔
      Literal.value literal = .ok path ∧ path ≠ "" ∧ ∀ c ∈ path.toList, isIllegal c = false := by
  unfold ofLiteral
  split
  · rename_i hv
    simp [hv]
  · rename_i value hv
    rw [hv]
    constructor
    · intro h
      split at h
      · cases h
      · rename_i hne
        split at h
        · cases h
        · rename_i hf
          cases h
          refine ⟨rfl, hne, fun c hc => ?_⟩
          simpa using List.find?_eq_none.1 hf c hc
    · rintro ⟨h, hne, hlegal⟩
      cases h
      rw [if_neg hne]
      have hnone : path.toList.find? isIllegal = none :=
        List.find?_eq_none.2 fun c hc => by simp [hlegal c hc]
      rw [hnone]

end VendorBuild.ImportPath
