import Mathlib.Data.List.Perm.Basic
import Mathlib.Data.List.Nodup
import Almanac.Dictionary

/-!
# Dictionaries by their values

A dictionary is determined by the values under its keys (`Dictionary.ext_get?`), and of entries
without a repeated key each is under its own (`Dictionary.get?_ofList`). So the order in which such
entries are put in does not matter.
-/

namespace Almanac

variable {α : Type}

/-! ## Entries -/

theorem lookup_filter_key (p : String → Bool) (key : String) (entries : List (String × α)) :
    (entries.filter fun e => p e.1).lookup key = if p key then entries.lookup key else none := by
  induction entries with
  | nil => simp
  | cons entry rest ih =>
    obtain ⟨first, value⟩ := entry
    by_cases hfirst : p first = true
    · rw [List.filter_cons_of_pos (by exact hfirst), lookup_entry, lookup_entry, ih]
      by_cases h : key = first <;> simp [h, hfirst]
    · rw [List.filter_cons_of_neg (by exact hfirst), ih, lookup_entry]
      by_cases h : key = first <;> simp [h, hfirst]

theorem lookup_isSome_iff {key : String} {entries : List (String × α)} :
    (entries.lookup key).isSome = true ↔ key ∈ entries.map (·.1) := by
  induction entries with
  | nil => simp
  | cons entry rest ih =>
    obtain ⟨first, value⟩ := entry
    rw [lookup_entry, List.map_cons, List.mem_cons, ← ih]
    by_cases h : key = first <;> simp [h]

/-- Where no key is repeated, each entry is the one that is found under its key. -/
theorem lookup_eq_some_iff_mem {entries : List (String × α)} (h : (entries.map (·.1)).Nodup)
    {key : String} {value : α} : entries.lookup key = some value ↔ (key, value) ∈ entries := by
  induction entries with
  | nil => simp
  | cons entry rest ih =>
    obtain ⟨first, old⟩ := entry
    rw [List.map_cons, List.nodup_cons] at h
    rw [lookup_entry, List.mem_cons]
    by_cases hkey : key = first
    · subst hkey
      have hnot : (key, value) ∉ rest := fun hmem => h.1 (List.mem_map.mpr ⟨_, hmem, rfl⟩)
      simp [hnot, eq_comm]
    · rw [if_neg hkey, ih h.2]
      simp [hkey]

/-- Where no key is repeated, at most one entry has the key. -/
theorem filter_key_eq {entries : List (String × α)} (h : (entries.map (·.1)).Nodup)
    (key : String) :
    entries.filter (·.1 == key) = (entries.lookup key).toList.map (key, ·) := by
  induction entries with
  | nil => rfl
  | cons entry rest ih =>
    obtain ⟨first, value⟩ := entry
    rw [List.map_cons, List.nodup_cons] at h
    rw [List.filter_cons, lookup_entry, ih h.2]
    by_cases heq : first = key
    · subst heq
      have hnone : rest.lookup first = none := by
        rw [← Option.not_isSome_iff_eq_none, lookup_isSome_iff]
        exact h.1
      simp [hnone]
    · simp [heq, Ne.symm heq]

theorem insertEntry_of_lt {key : String} (value : α) :
    ∀ {entries : List (String × α)}, (∀ p ∈ entries, p.1 < key) →
      insertEntry key value entries = entries ++ [(key, value)]
  | [], _ => rfl
  | (first, old) :: rest, h => by
    have hfirst : first < key := h (first, old) List.mem_cons_self
    have hrest : insertEntry key value rest = rest ++ [(key, value)] :=
      insertEntry_of_lt value fun p hp => h p (List.mem_cons_of_mem _ hp)
    rw [insertEntry, if_neg (String.lt_asymm hfirst), if_pos hfirst, hrest]
    rfl

namespace Dictionary

theorem ext {d d' : Dictionary α} (h : d.entries = d'.entries) : d = d' := by
  cases d
  cases d'
  cases h
  rfl

theorem pairwise_keys (d : Dictionary α) : d.keys.Pairwise (· < ·) :=
  List.pairwise_map.mpr d.sorted

theorem nodup_keys (d : Dictionary α) : d.keys.Nodup := by
  refine d.pairwise_keys.imp fun {a b} hlt heq => ?_
  rw [heq] at hlt
  exact String.lt_irrefl b hlt

theorem get?_eq_some_iff_mem (d : Dictionary α) {key : String} {value : α} :
    d.get? key = some value ↔ (key, value) ∈ d.entries :=
  lookup_eq_some_iff_mem d.nodup_keys

/-- Dictionaries with the same value under every key are equal. -/
theorem ext_get? {d d' : Dictionary α} (h : ∀ key, d.get? key = d'.get? key) : d = d' := by
  apply ext
  have hmem : ∀ entry, entry ∈ d.entries ↔ entry ∈ d'.entries := by
    rintro ⟨key, value⟩
    rw [← get?_eq_some_iff_mem, ← get?_eq_some_iff_mem, h]
  have hperm : d.entries.Perm d'.entries :=
    (List.perm_ext_iff_of_nodup d.nodup_keys.of_map d'.nodup_keys.of_map).mpr hmem
  refine hperm.eq_of_pairwise (fun a b _ _ hab hba => ?_) d.sorted d'.sorted
  exact absurd hba (String.lt_asymm hab)

/-! ## Dictionaries of entries -/

theorem entries_foldl_insert {rest : List (String × α)} {d : Dictionary α}
    (h : (d.entries ++ rest).Pairwise fun a b => a.1 < b.1) :
    (rest.foldl (fun d p => d.insert p.1 p.2) d).entries = d.entries ++ rest := by
  induction rest generalizing d with
  | nil => simp
  | cons p rest ih =>
    have hp : (d.insert p.1 p.2).entries = d.entries ++ [p] :=
      insertEntry_of_lt p.2 fun q hq =>
        (List.pairwise_append.mp h).2.2 q hq p List.mem_cons_self
    have hnext : ((d.insert p.1 p.2).entries ++ rest).Pairwise fun a b => a.1 < b.1 := by
      rwa [hp, List.append_assoc, List.singleton_append]
    rw [List.foldl_cons, ih hnext, hp, List.append_assoc, List.singleton_append]

theorem ofList_entries (d : Dictionary α) : ofList d.entries = d :=
  ext (entries_foldl_insert (d := empty) d.sorted)

/-- Of entries put in one after the other the last under a key stays. -/
theorem get?_foldl_insert (entries : List (String × α)) (d : Dictionary α) (key : String) :
    (entries.foldl (fun d p => d.insert p.1 p.2) d).get? key =
      (entries.reverse.lookup key).or (d.get? key) := by
  induction entries generalizing d with
  | nil => simp
  | cons entry rest ih =>
    obtain ⟨first, value⟩ := entry
    rw [List.foldl_cons, ih, get?_insert, List.reverse_cons, List.lookup_append, lookup_entry]
    by_cases h : key = first
    · cases rest.reverse.lookup key <;> simp [h]
    · cases rest.reverse.lookup key <;> simp [h]

theorem get?_ofList_reverse (entries : List (String × α)) (key : String) :
    (ofList entries).get? key = entries.reverse.lookup key := by
  rw [ofList, get?_foldl_insert]
  exact Option.or_none

/-- The keys are those of the entries. -/
theorem mem_keys_ofList {entries : List (String × α)} {key : String} :
    key ∈ (ofList entries).keys ↔ key ∈ entries.map (·.1) := by
  have hget : key ∈ (ofList entries).keys ↔ ((ofList entries).get? key).isSome = true :=
    lookup_isSome_iff.symm
  rw [hget, get?_ofList_reverse, lookup_isSome_iff, List.map_reverse, List.mem_reverse]

/-- Where no key is repeated, the value under a key is that of its entry. -/
theorem get?_ofList {entries : List (String × α)} (h : (entries.map (·.1)).Nodup) (key : String) :
    (ofList entries).get? key = entries.lookup key := by
  have hreverse : (entries.reverse.map (·.1)).Nodup := by
    rwa [List.map_reverse, List.nodup_reverse]
  rw [get?_ofList_reverse]
  ext value
  rw [lookup_eq_some_iff_mem hreverse, lookup_eq_some_iff_mem h, List.mem_reverse]

end Dictionary

end Almanac
