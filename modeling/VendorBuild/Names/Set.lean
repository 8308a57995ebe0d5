/-!
# Sets of names

A set of names is kept as the list of its members in increasing order of code points, so that two
sets with the same members are equal, and listing the members needs no sorting.

Results:
* `NameSet.mem_insert`, `NameSet.mem_ofList`, `NameSet.mem_union`: the members after each operation.
* `NameSet.ext_mem`: sets with the same members are equal.
-/

namespace VendorBuild

/-- A finite set of names. -/
structure NameSet where
  /-- The members in increasing order. -/
  toList : List String
  increasing : toList.Pairwise (· < ·)

namespace NameSet

/-- The set without members. -/
def empty : NameSet := ⟨[], List.Pairwise.nil⟩

instance : EmptyCollection NameSet := ⟨empty⟩

instance : Membership String NameSet := ⟨fun s x => x ∈ s.toList⟩

theorem mem_def {x : String} {s : NameSet} : x ∈ s ↔ x ∈ s.toList := Iff.rfl

instance (x : String) (s : NameSet) : Decidable (x ∈ s) :=
  inferInstanceAs (Decidable (x ∈ s.toList))

/-- Puts a name into its place in an increasing list. -/
def insertSorted (x : String) : List String → List String
  | [] => [x]
  | y :: rest =>
    if x < y then x :: y :: rest else if x = y then y :: rest else y :: insertSorted x rest

@[simp] theorem mem_insertSorted {x y : String} {names : List String} :
    y ∈ insertSorted x names ↔ y = x ∨ y ∈ names := by
  induction names with
  | nil => simp [insertSorted]
  | cons z rest ih =>
    rw [insertSorted]
    split
    · simp
    · split
      · rename_i h
        subst h
        simp
      · simp only [List.mem_cons, ih]
        grind

theorem pairwise_insertSorted {x : String} {names : List String}
    (h : names.Pairwise (· < ·)) : (insertSorted x names).Pairwise (· < ·) := by
  induction names with
  | nil => simp [insertSorted]
  | cons z rest ih =>
    have ⟨hz, hrest⟩ := List.pairwise_cons.1 h
    rw [insertSorted]
    split
    · rename_i hlt
      refine List.pairwise_cons.2 ⟨fun y hy => ?_, h⟩
      rcases List.mem_cons.1 hy with rfl | hy
      · exact hlt
      · exact String.lt_trans hlt (hz y hy)
    · split
      · exact h
      · rename_i hlt hne
        refine List.pairwise_cons.2 ⟨fun y hy => ?_, ih hrest⟩
        rcases mem_insertSorted.1 hy with rfl | hy
        · rcases Std.lt_trichotomy z y with h' | h' | h'
          · exact h'
          · exact absurd h'.symm hne
          · exact absurd h' hlt
        · exact hz y hy

/-- The set with one more name. -/
def insert (x : String) (s : NameSet) : NameSet :=
  ⟨insertSorted x s.toList, pairwise_insertSorted s.increasing⟩

/-- The set of the names in a list. -/
def ofList (names : List String) : NameSet := names.foldr insert empty

/-- The names of either set. -/
def union (s t : NameSet) : NameSet := s.toList.foldr insert t

@[simp] theorem mem_insert {x y : String} {s : NameSet} : y ∈ s.insert x ↔ y = x ∨ y ∈ s := by
  simp [mem_def, insert]

@[simp] theorem not_mem_empty {x : String} : ¬ x ∈ empty := by simp [mem_def, empty]

theorem mem_foldr_insert {x : String} {names : List String} {s : NameSet} :
    x ∈ names.foldr insert s ↔ x ∈ names ∨ x ∈ s := by
  induction names with
  | nil => simp
  | cons y rest ih => simp [ih, or_assoc]

@[simp] theorem mem_ofList {x : String} {names : List String} : x ∈ ofList names ↔ x ∈ names := by
  simp [ofList, mem_foldr_insert]

@[simp] theorem mem_union {x : String} {s t : NameSet} : x ∈ s.union t ↔ x ∈ s ∨ x ∈ t := by
  rw [union, mem_foldr_insert, mem_def (s := s)]

theorem eq_of_pairwise_of_mem {xs ys : List String} (hx : xs.Pairwise (· < ·))
    (hy : ys.Pairwise (· < ·)) (h : ∀ x, x ∈ xs ↔ x ∈ ys) : xs = ys := by
  induction xs generalizing ys with
  | nil =>
    cases ys with
    | nil => rfl
    | cons y ys => exact absurd ((h y).2 (by simp)) (by simp)
  | cons x xs ih =>
    cases ys with
    | nil => exact absurd ((h x).1 (by simp)) (by simp)
    | cons y ys =>
      have ⟨hx1, hx2⟩ := List.pairwise_cons.1 hx
      have ⟨hy1, hy2⟩ := List.pairwise_cons.1 hy
      have hxy : x = y := by
        rcases List.mem_cons.1 ((h x).1 (by simp)) with he | hm
        · exact he
        · rcases List.mem_cons.1 ((h y).2 (by simp)) with he | hm'
          · exact he.symm
          · exact absurd (String.lt_trans (hy1 x hm) (hx1 y hm')) (String.lt_irrefl y)
      subst hxy
      have hmem : ∀ z, z ∈ xs ↔ z ∈ ys := by
        intro z
        constructor
        · intro hz
          rcases List.mem_cons.1 ((h z).1 (by simp [hz])) with he | hm
          · exact absurd (he ▸ hx1 z hz) (String.lt_irrefl x)
          · exact hm
        · intro hz
          rcases List.mem_cons.1 ((h z).2 (by simp [hz])) with he | hm
          · exact absurd (he ▸ hy1 z hz) (String.lt_irrefl x)
          · exact hm
      rw [ih hx2 hy2 hmem]

theorem ext_mem {s t : NameSet} (h : ∀ x, x ∈ s ↔ x ∈ t) : s = t := by
  obtain ⟨xs, hx⟩ := s
  obtain ⟨ys, hy⟩ := t
  have : xs = ys := eq_of_pairwise_of_mem hx hy h
  subst this
  rfl

end NameSet

end VendorBuild
