/-!
# Texts in pieces

A mark cuts a text into pieces, one more than there are marks: line feeds cut it into lines, slashes
cut a path into segments, commas cut a list of labels into labels. Joined with the mark, the pieces
give the text back, and no piece holds the mark. These two facts tell the pieces from all other
lists of texts.

Results:
* `intercalate_pieces`, `notMem_of_mem_pieces`: what the pieces of a text make, and what none holds.
* `pieces_intercalate`: texts without the mark are the pieces of what they make.
* `pieces_eq_iff`: the two facts together.
-/

namespace VendorBuild

/-- The stretches of a text between the marks in it, empty ones included. -/
def pieces (mark : Char) (text : String) : List String :=
  (text.toList.splitOn mark).map String.ofList

section

variable {mark : Char} {text : String}

theorem pieces_ne_nil (mark : Char) (text : String) : pieces mark text ≠ [] := by
  simp [pieces, List.splitOn_ne_nil]

theorem pieces_of_notMem (h : mark ∉ text.toList) : pieces mark text = [text] := by
  rw [pieces, List.splitOn_eq_singleton h, List.map_singleton, String.ofList_toList]

theorem notMem_of_mem_splitOn {α : Type} [BEq α] [LawfulBEq α] {mark : α} {piece cs : List α}
    (h : piece ∈ cs.splitOn mark) : mark ∉ piece := by
  induction cs generalizing piece with
  | nil => simp_all
  | cons c cs ih =>
    rw [List.splitOn_cons_eq_if_modifyHead] at h
    by_cases hc : c = mark
    · rcases List.mem_cons.1 (by simpa [hc] using h) with rfl | h
      · simp
      · exact ih h
    · cases hs : cs.splitOn mark with
      | nil => exact absurd hs (List.splitOn_ne_nil mark cs)
      | cons first more =>
        rw [hs] at h
        rcases List.mem_cons.1 (by simpa [hc] using h) with rfl | h
        · have := ih (hs ▸ List.mem_cons_self)
          simp [this, Ne.symm hc]
        · exact ih (hs ▸ List.mem_cons_of_mem _ h)

theorem notMem_of_mem_pieces {piece : String} (h : piece ∈ pieces mark text) :
    mark ∉ piece.toList := by
  obtain ⟨cs, hcs, rfl⟩ := List.mem_map.1 h
  rw [String.toList_ofList]
  exact notMem_of_mem_splitOn hcs

end

section

variable {mark : Char} {separator : String} (hmark : separator.toList = [mark])

include hmark

theorem pieces_append (front back : String) :
    pieces mark (front ++ separator ++ back) = pieces mark front ++ pieces mark back := by
  have hlist : (front ++ separator ++ back).toList = front.toList ++ mark :: back.toList := by
    simp [hmark]
  rw [pieces, hlist, List.splitOn_append_cons_self, List.map_append]
  rfl

theorem toList_intercalate_mark (texts : List String) :
    (String.intercalate separator texts).toList =
      List.intercalate [mark] (texts.map String.toList) := by
  rw [String.toList_intercalate, hmark]

/-- Joining the pieces of a text with the mark gives the text back. -/
theorem intercalate_pieces (text : String) :
    String.intercalate separator (pieces mark text) = text := by
  have hlist : (pieces mark text).map String.toList = text.toList.splitOn mark := by
    simp [pieces, Function.comp_def]
  rw [← String.toList_inj, toList_intercalate_mark hmark, hlist, List.intercalate_splitOn]

/-- Texts without the mark are the pieces of what they make. -/
theorem pieces_intercalate {texts : List String} (hne : texts ≠ [])
    (h : ∀ t ∈ texts, mark ∉ t.toList) :
    pieces mark (String.intercalate separator texts) = texts := by
  rw [pieces, toList_intercalate_mark hmark, List.splitOn_intercalate]
  · simp [Function.comp_def]
  · intro l hl
    obtain ⟨t, ht, rfl⟩ := List.mem_map.1 hl
    exact h t ht
  · simpa using hne

/-- Texts are the pieces of a text exactly if they make it and none of them holds the mark. -/
theorem pieces_eq_iff {text : String} {texts : List String} :
    pieces mark text = texts ↔
      text = String.intercalate separator texts ∧ texts ≠ [] ∧ ∀ t ∈ texts, mark ∉ t.toList := by
  constructor
  · rintro rfl
    exact ⟨(intercalate_pieces hmark text).symm, pieces_ne_nil mark text,
      fun t ht => notMem_of_mem_pieces ht⟩
  · rintro ⟨rfl, hne, h⟩
    exact pieces_intercalate hmark hne h

end

end VendorBuild
