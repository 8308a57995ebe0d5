import VendorBuild.Path
import VendorBuild.Text.Pieces
import VendorBuild.Proofs.Boundaries

/-!
# Raw texts and what they read as

A text in UTF-8 is cut at slashes like the text itself, since no other character has the byte of a
slash among its own. A raw text that holds no slash reads as a text without one, and a raw text that
reads as a text without replacement characters spells that text.

Results:
* `RawText.segments_ofString`: the segments of a text in UTF-8.
* `RawText.eq_ofString_of_text`: what a raw text is that reads as a clean text.
-/

namespace VendorBuild

namespace RawText

variable {r : RawText} {s t : String}

@[simp] theorem bytes_append (a b : RawText) : (a ++ b).bytes = a.bytes ++ b.bytes := rfl

theorem ext_bytes {a b : RawText} (h : a.bytes = b.bytes) : a = b := congrArg mk h

theorem append_assoc (a b c : RawText) : a ++ b ++ c = a ++ (b ++ c) :=
  ext_bytes (List.append_assoc ..)

@[simp] theorem empty_append (a : RawText) : (("" : String) : RawText) ++ a = a := rfl

@[simp] theorem append_empty (a : RawText) : a ++ (("" : String) : RawText) = a :=
  ext_bytes (List.append_nil _)

theorem ofString_append (s t : String) : ((s ++ t : String) : RawText) = s ++ t := by
  apply ext_bytes
  rw [bytes_append, ofString, ofString, ofString, Utf8.encode, String.toList_append,
    List.flatMap_append]
  rfl

@[simp] theorem text_ofString (s : String) : (s : RawText).text = s :=
  Utf8.decodeLossy_of_decode? (Utf8.decode?_encode s)

@[simp] theorem ofString_inj : (s : RawText) = t ↔ s = t :=
  ⟨fun h => by rw [← text_ofString s, h, text_ofString], congrArg _⟩

/-! ## Slashes -/

theorem slash_mem_ofString_iff : slash ∈ (s : RawText).bytes ↔ '/' ∈ s.toList := by
  have hbytes : String.utf8EncodeChar '/' = [slash] := by decide
  constructor
  · intro h
    obtain ⟨front, back, hcut⟩ := List.append_of_mem h
    apply @Utf8.mem_of_encode_eq_append s front back '/'
    rw [hbytes, List.append_assoc, List.singleton_append]
    exact hcut
  · intro h
    refine List.mem_flatMap.2 ⟨'/', h, ?_⟩
    rw [hbytes]
    exact List.mem_singleton_self _

/-- A raw text that holds no slash reads as a text without one. -/
theorem slash_notMem_text (h : slash ∉ r.bytes) : '/' ∉ r.text.toList := by
  intro hmem
  obtain ⟨front, back, hcut⟩ := List.append_of_mem hmem
  obtain ⟨start, rest, hbytes, -, hrest⟩ := Utf8.exists_append_of_decodeLossy hcut
  obtain ⟨mid, last, hmid, hslash, -⟩ := @Utf8.exists_append_of_decodeLossy _ ['/'] _ hrest
  have hspells : mid = Utf8.encode "/" :=
    Utf8.eq_encode_of_decodeLossy (String.toList_inj.1 hslash) (by decide)
  apply h
  rw [hbytes, hmid, hspells]
  exact List.mem_append_right _ (List.mem_append_left _ (by decide))

/-- A raw text that reads as a text without replacement characters spells that text. -/
theorem eq_ofString_of_text (h : r.text = s) (hs : '\uFFFD' ∉ s.toList) : r = s :=
  ext_bytes (Utf8.eq_encode_of_decodeLossy h hs)

/-! ## Segments -/

theorem segments_ne_nil (r : RawText) : r.segments ≠ [] := by
  simp [segments, List.splitOn_ne_nil]

theorem segments_append_slash (a b : RawText) :
    (a ++ "/" ++ b).segments = a.segments ++ b.segments := by
  have hbytes : (a ++ "/" ++ b).bytes = a.bytes ++ slash :: b.bytes := by
    rw [bytes_append, bytes_append, List.append_assoc]
    rfl
  rw [segments, hbytes, List.splitOn_append_cons_self, List.map_append]
  rfl

/-- A slash at the end makes for one more segment, which is empty. -/
theorem segments_slash_end (r : RawText) :
    (r ++ "/").segments = r.segments ++ [("" : RawText)] := by
  have hend := segments_append_slash r ""
  rwa [append_empty] at hend

theorem segments_of_notMem (h : slash ∉ r.bytes) : r.segments = [r] := by
  rw [segments, List.splitOn_eq_singleton h, List.map_singleton]

/-- No segment holds a slash. -/
theorem slash_notMem_of_mem_segments {segment : RawText} (h : segment ∈ r.segments) :
    slash ∉ segment.bytes := by
  obtain ⟨bytes, hbytes, rfl⟩ := List.mem_map.1 h
  exact notMem_of_mem_splitOn hbytes

theorem encode_intercalate (texts : List String) :
    Utf8.encode (String.intercalate "/" texts) =
      List.intercalate [slash] (texts.map Utf8.encode) := by
  have hslash : "/".toList.flatMap String.utf8EncodeChar = [slash] := by decide
  rw [Utf8.encode, String.toList_intercalate]
  induction texts with
  | nil => rfl
  | cons first rest ih =>
    cases rest with
    | nil => simp [Utf8.encode]
    | cons second more =>
      simp only [List.map_cons, List.intercalate_cons_cons, List.flatMap_append, hslash] at ih ⊢
      rw [ih]
      rfl

/-- A text in UTF-8 is cut where the text is. -/
theorem segments_ofString (s : String) : (s : RawText).segments = (pieces '/' s).map ofString := by
  have hbytes : Utf8.encode s = List.intercalate [slash] ((pieces '/' s).map Utf8.encode) := by
    rw [← encode_intercalate, intercalate_pieces rfl]
  rw [segments, ofString, hbytes, List.splitOn_intercalate]
  · rw [List.map_map]
    rfl
  · intro bytes hmem
    obtain ⟨piece, hpiece, rfl⟩ := List.mem_map.1 hmem
    exact mt slash_mem_ofString_iff.1 (notMem_of_mem_pieces hpiece)
  · simpa using pieces_ne_nil '/' s

end RawText

end VendorBuild
