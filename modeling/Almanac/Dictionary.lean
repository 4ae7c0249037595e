/-!
# Dictionaries

Values under text keys, held in the order of the keys, each key once. Two
dictionaries with the same values under the same keys are therefore equal, in
whatever order their entries were put in.
-/

namespace Almanac

/-- Puts a value under a key into entries in the order of their keys, in place of
the value that was there. -/
def insertEntry {α : Type} (key : String) (value : α) : List (String × α) → List (String × α)
  | [] => [(key, value)]
  | (first, old) :: rest =>
    if key < first then (key, value) :: (first, old) :: rest
    else if first < key then (first, old) :: insertEntry key value rest
    else (first, value) :: rest

/-- An entry of the result was there before, or has the new value under the new
key or one that stands at the same place in the order. -/
theorem mem_insertEntry {α : Type} {key : String} {value : α} {p : String × α} :
    ∀ {l : List (String × α)}, p ∈ insertEntry key value l →
      p.1 = key ∨ ∃ q ∈ l, p.1 = q.1
  | [], h => by
    simp only [insertEntry, List.mem_singleton] at h
    exact .inl (by rw [h])
  | (first, old) :: rest, h => by
    simp only [insertEntry] at h
    split at h
    · rcases List.mem_cons.mp h with rfl | h
      · exact .inl rfl
      · exact .inr ⟨p, h, rfl⟩
    · split at h
      · rcases List.mem_cons.mp h with rfl | h
        · exact .inr ⟨_, List.mem_cons_self, rfl⟩
        · rcases mem_insertEntry h with h | ⟨q, hq, h⟩
          · exact .inl h
          · exact .inr ⟨q, List.mem_cons_of_mem _ hq, h⟩
      · rcases List.mem_cons.mp h with rfl | h
        · exact .inr ⟨(first, old), List.mem_cons_self, rfl⟩
        · exact .inr ⟨p, List.mem_cons_of_mem _ h, rfl⟩

theorem pairwise_insertEntry {α : Type} {key : String} {value : α} :
    ∀ {l : List (String × α)}, l.Pairwise (fun a b => a.1 < b.1) →
      (insertEntry key value l).Pairwise (fun a b => a.1 < b.1)
  | [], _ => by simp [insertEntry]
  | (first, old) :: rest, h => by
    have ⟨hfirst, hrest⟩ := List.pairwise_cons.mp h
    simp only [insertEntry]
    split
    · rename_i hlt
      refine List.pairwise_cons.mpr ⟨fun p hp => ?_, h⟩
      rcases List.mem_cons.mp hp with rfl | hp
      · exact hlt
      · exact String.lt_trans hlt (hfirst p hp)
    · split
      · rename_i hlt
        refine List.pairwise_cons.mpr ⟨fun p hp => ?_, pairwise_insertEntry hrest⟩
        rcases mem_insertEntry hp with hp | ⟨q, hq, hp⟩
        · exact hp ▸ hlt
        · exact hp ▸ hfirst q hq
      · exact List.pairwise_cons.mpr ⟨hfirst, hrest⟩

theorem lookup_entry {α : Type} (key other : String) (value : α) (rest : List (String × α)) :
    ((key, value) :: rest).lookup other = if other = key then some value else rest.lookup other := by
  by_cases h : other = key
  · simp [h]
  · simp [List.lookup_cons, h, beq_eq_false_iff_ne.mpr h]

theorem lookup_insertEntry {α : Type} (key other : String) (value : α) (l : List (String × α)) :
    (insertEntry key value l).lookup other = if other = key then some value else l.lookup other := by
  induction l with
  | nil => exact lookup_entry key other value []
  | cons p rest ih =>
    obtain ⟨first, old⟩ := p
    unfold insertEntry
    split
    · exact lookup_entry key other value _
    · next hfirst =>
      split
      · next hlt =>
        have hne : first ≠ key := by
          rintro rfl
          exact hfirst hlt
        rw [lookup_entry, lookup_entry, ih]
        by_cases h : other = first
        · simp [h, hne]
        · simp [h]
      · next hkey =>
        -- the order is total, so the new key is the one that is there
        have heq : first = key := String.le_antisymm hfirst hkey
        rw [lookup_entry, lookup_entry, heq]
        by_cases h : other = key
        · simp [h]
        · simp [h]

/-- Values under text keys. -/
structure Dictionary (α : Type) where
  entries : List (String × α) := []
  /-- The keys are in order, none of them twice. -/
  sorted : entries.Pairwise (fun a b => a.1 < b.1) := by exact List.Pairwise.nil

namespace Dictionary

variable {α : Type}

instance : Inhabited (Dictionary α) := ⟨{}⟩

/-- No values. -/
def empty : Dictionary α := {}

/-- Puts a value under a key, in place of the one that was there. -/
def insert (d : Dictionary α) (key : String) (value : α) : Dictionary α where
  entries := insertEntry key value d.entries
  sorted := pairwise_insertEntry d.sorted

/-- The dictionary with these entries, the last one where a key is repeated. -/
def ofList (entries : List (String × α)) : Dictionary α :=
  entries.foldl (fun d p => d.insert p.1 p.2) empty

/-- The value under a key. -/
def get? (d : Dictionary α) (key : String) : Option α := d.entries.lookup key

theorem get?_insert (d : Dictionary α) (key other : String) (value : α) :
    (d.insert key value).get? other = if other = key then some value else d.get? other :=
  lookup_insertEntry key other value d.entries

/-- The keys, in order. -/
def keys (d : Dictionary α) : List String := d.entries.map (·.1)

/-- How many keys there are. -/
def size (d : Dictionary α) : Nat := d.entries.length

/-- Whether there is no key. -/
def isEmpty (d : Dictionary α) : Bool := d.entries.isEmpty

end Dictionary

end Almanac
