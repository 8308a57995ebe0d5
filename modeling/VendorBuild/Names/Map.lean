import VendorBuild.Names.Set

/-!
# Maps keyed by names

A map is kept as the list of its entries in increasing order of their keys. Putting an entry
replaces the one under the same key.

Results:
* `NameMap.find?_put`: what is found after an entry has been put.
* `NameMap.mem_entries_iff`: the entries listed are those that look-up finds.
-/

namespace VendorBuild

/-- A finite map from names to values of type `α`. -/
structure NameMap (α : Type) where
  /-- The entries in increasing order of their keys. -/
  entries : List (String × α)
  increasing : entries.Pairwise (fun a b => a.1 < b.1)

namespace NameMap

variable {α β : Type}

/-- The map without entries. -/
def empty : NameMap α := ⟨[], List.Pairwise.nil⟩

/-- The number of entries. -/
def size (m : NameMap α) : Nat := m.entries.length

/-- Whether the map has no entry. -/
def isEmpty (m : NameMap α) : Bool := m.entries.isEmpty

/-- The values in the order of their keys. -/
def values (m : NameMap α) : List α := m.entries.map (·.2)

/-- The value under a key. -/
def find? (m : NameMap α) (key : String) : Option α :=
  (m.entries.find? (·.1 = key)).map (·.2)

/-- Whether the map has an entry under a key. -/
def contains (m : NameMap α) (key : String) : Bool := (m.find? key).isSome

/-- Puts an entry into its place in an increasing list. -/
def putSorted (key : String) (value : α) : List (String × α) → List (String × α)
  | [] => [(key, value)]
  | e :: rest =>
    if key < e.1 then (key, value) :: e :: rest
    else if key = e.1 then (key, value) :: rest
    else e :: putSorted key value rest

theorem key_of_mem_putSorted {key : String} {value : α} {entries : List (String × α)}
    {e : String × α} (h : e ∈ putSorted key value entries) : e = (key, value) ∨ e ∈ entries := by
  induction entries with
  | nil => simpa [putSorted] using h
  | cons d rest ih =>
    rw [putSorted] at h
    split at h
    · simpa using h
    · split at h
      · rcases List.mem_cons.1 h with h | h
        · exact .inl h
        · exact .inr (by simp [h])
      · rcases List.mem_cons.1 h with h | h
        · exact .inr (by simp [h])
        · rcases ih h with h | h
          · exact .inl h
          · exact .inr (by simp [h])

theorem pairwise_putSorted {key : String} {value : α} {entries : List (String × α)}
    (h : entries.Pairwise (fun a b => a.1 < b.1)) :
    (putSorted key value entries).Pairwise (fun a b => a.1 < b.1) := by
  induction entries with
  | nil => simp [putSorted]
  | cons d rest ih =>
    have ⟨hd, hrest⟩ := List.pairwise_cons.1 h
    rw [putSorted]
    split
    · rename_i hlt
      refine List.pairwise_cons.2 ⟨fun e he => ?_, h⟩
      rcases List.mem_cons.1 he with rfl | he
      · exact hlt
      · exact String.lt_trans hlt (hd e he)
    · split
      · rename_i heq
        refine List.pairwise_cons.2 ⟨fun e he => ?_, hrest⟩
        exact heq ▸ hd e he
      · rename_i hlt hne
        refine List.pairwise_cons.2 ⟨fun e he => ?_, ih hrest⟩
        rcases key_of_mem_putSorted he with rfl | he
        · rcases Std.lt_trichotomy d.1 key with h' | h' | h'
          · exact h'
          · exact absurd h'.symm hne
          · exact absurd h' hlt
        · exact hd e he

/-- The map with `value` under `key`, in the place of what was there. -/
def put (m : NameMap α) (key : String) (value : α) : NameMap α :=
  ⟨putSorted key value m.entries, pairwise_putSorted m.increasing⟩

/-- The map of the entries in a list, where a later entry replaces an earlier one. -/
def ofList (entries : List (String × α)) : NameMap α :=
  entries.foldl (fun m e => m.put e.1 e.2) empty

/-- The map with each value changed by `f`. -/
def map (f : α → β) (m : NameMap α) : NameMap β :=
  ⟨m.entries.map fun e => (e.1, f e.2), by
    rw [List.pairwise_map]
    exact m.increasing⟩

theorem find?_putSorted {key other : String} {value : α} {entries : List (String × α)} :
    ((putSorted key value entries).find? (·.1 = other)).map (·.2) =
      if key = other then some value else (entries.find? (·.1 = other)).map (·.2) := by
  induction entries with
  | nil => by_cases h : key = other <;> simp [putSorted, h]
  | cons d rest ih =>
    rw [putSorted]
    split
    · by_cases h : key = other <;> simp [h]
    · split
      · rename_i _ heq
        by_cases h : key = other
        · simp [h]
        · have : ¬ d.1 = other := heq ▸ h
          simp [h, this]
      · rename_i _ hne
        by_cases hd : d.1 = other
        · have : ¬ key = other := fun h => hne (h.trans hd.symm)
          simp [hd, this]
        · simp only [List.find?_cons, hd, decide_false]
          exact ih

/-- Look-up after an entry has been put finds it under its key, and what was there elsewhere. -/
theorem find?_put {m : NameMap α} {key other : String} {value : α} :
    (m.put key value).find? other = if key = other then some value else m.find? other :=
  find?_putSorted

theorem find?_map {f : α → β} {m : NameMap α} {key : String} :
    (m.map f).find? key = (m.find? key).map f := by
  simp only [find?, map, List.find?_map, Option.map_map]
  rfl

/-- The entries listed are those that look-up finds. -/
theorem mem_entries_iff {m : NameMap α} {key : String} {value : α} :
    (key, value) ∈ m.entries ↔ m.find? key = some value := by
  obtain ⟨entries, h⟩ := m
  simp only [find?]
  induction entries with
  | nil => simp
  | cons d rest ih =>
    have ⟨hd, hrest⟩ := List.pairwise_cons.1 h
    by_cases hk : d.1 = key
    · simp only [List.mem_cons, List.find?_cons, hk, decide_true, Option.map_some, Option.some.injEq]
      constructor
      · rintro (h' | h')
        · rw [← h']
        · have hlt := hd (key, value) h'
          rw [hk] at hlt
          exact absurd hlt (String.lt_irrefl key)
      · rintro rfl
        exact .inl (by rw [← hk])
    · simp only [List.mem_cons, List.find?_cons, hk, decide_false, ih hrest]
      constructor
      · rintro (h' | h')
        · exact absurd (by rw [← h']) hk
        · exact h'
      · exact .inr

end NameMap

end VendorBuild
