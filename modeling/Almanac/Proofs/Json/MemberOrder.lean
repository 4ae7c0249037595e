import Mathlib.Data.List.Forall2
import Almanac.Json.Parts
import Almanac.Proofs.Dictionary

/-!
# The order of members

Two values are the same up to the order of members if they differ in nothing else, at any depth
(`Json.SameUpToOrder`). A reader that gives the same of such values ignores the order of members
(`Json.IgnoresOrder`). Whether a value can be read at all does not depend on the order
(`fits_eq`), and neither do the parts of a value under their names (`rel_parts?`); so readers that
look only at parts by their names ignore the order if the readers of the parts do
(`ignoresOrder_of_parts`). Members that are all put into one dictionary are read alike in every
order too (`ofList_mapM_member?`).
-/

namespace Almanac

namespace Json

/-! ## Values that are the same up to the order of members -/

/-- The values differ at most in the order in which the members of objects stand, none of which
has a key twice. How a number is written, and which number it is, is left open: nothing that is
read from the parts of a value is a number. -/
inductive SameUpToOrder : Json → Json → Prop where
  | null : SameUpToOrder .null .null
  | bool (value : Bool) : SameUpToOrder (.bool value) (.bool value)
  | number (text text' : String) : SameUpToOrder (.number text) (.number text')
  | string (text : String) : SameUpToOrder (.string text) (.string text)
  | unreadable : SameUpToOrder .unreadable .unreadable
  | array {items items' : List Json} (hlength : items.length = items'.length)
      (hitems : ∀ (i : Nat) (item item' : Json), items[i]? = some item → items'[i]? = some item' →
        SameUpToOrder item item') :
      SameUpToOrder (.array items) (.array items')
  | object {members members' : List (String × Json)}
      (hnodup : (members.map (·.1)).Nodup) (hnodup' : (members'.map (·.1)).Nodup)
      (hkeys : ∀ key, key ∈ members.map (·.1) ↔ key ∈ members'.map (·.1))
      (hmembers : ∀ (key : String) (value value' : Json), (key, value) ∈ members →
        (key, value') ∈ members' → SameUpToOrder value value') :
      SameUpToOrder (.object members) (.object members')

section Members

variable {R : Json → Json → Prop}

theorem forall₂_items {items items' : List Json} (hlength : items.length = items'.length)
    (hitems : ∀ (i : Nat) (item item' : Json), items[i]? = some item → items'[i]? = some item' →
      R item item') : List.Forall₂ R items items' := by
  rw [List.forall₂_iff_get]
  refine ⟨hlength, fun i h h' => ?_⟩
  exact hitems i _ _ (List.getElem?_eq_getElem h) (List.getElem?_eq_getElem h')

/-- The values under every key are related, or there is none. -/
def SameParts (R : Json → Json → Prop) (parts parts' : List (String × Json)) : Prop :=
  ∀ name, Option.Rel R (parts.lookup name) (parts'.lookup name)

/-- Members with the same keys and related values under each have the same parts. -/
theorem sameParts_of_keys {members members' : List (String × Json)}
    (hnodup : (members.map (·.1)).Nodup) (hnodup' : (members'.map (·.1)).Nodup)
    (hkeys : ∀ key, key ∈ members.map (·.1) ↔ key ∈ members'.map (·.1))
    (hmembers : ∀ (key : String) (value value' : Json), (key, value) ∈ members →
      (key, value') ∈ members' → R value value') : SameParts R members members' := by
  intro key
  have hkey := hkeys key
  rw [← lookup_isSome_iff, ← lookup_isSome_iff] at hkey
  cases h : members.lookup key with
  | none =>
    cases h' : members'.lookup key with
    | none => exact .none
    | some value' => simp [h, h'] at hkey
  | some value =>
    cases h' : members'.lookup key with
    | none => simp [h, h'] at hkey
    | some value' =>
      exact .some (hmembers key value value' ((lookup_eq_some_iff_mem hnodup).mp h)
        ((lookup_eq_some_iff_mem hnodup').mp h'))

theorem nodup_filter_keys {members : List (String × Json)} (h : (members.map (·.1)).Nodup)
    (p : String → Bool) : ((members.filter fun member => p member.1).map (·.1)).Nodup :=
  h.sublist (List.filter_sublist.map _)

/-- Parts are still the same when those under some keys are left out. -/
theorem SameParts.filter_keys {parts parts' : List (String × Json)} (h : SameParts R parts parts')
    (p : String → Bool) :
    SameParts R (parts.filter fun part => p part.1) (parts'.filter fun part => p part.1) := by
  intro name
  rw [lookup_filter_key, lookup_filter_key]
  split
  · exact h name
  · exact .none

/-- Related items are the parts of the same names. -/
theorem sameParts_zip (names : List String) {items items' : List Json}
    (h : List.Forall₂ R items items') : SameParts R (names.zip items) (names.zip items') := by
  induction h generalizing names with
  | nil =>
    intro name
    rw [List.zip_nil_right]
    exact .none
  | cons hitem _ ih =>
    intro name
    cases names with
    | nil => exact .none
    | cons first names =>
      rw [List.zip_cons_cons, List.zip_cons_cons, lookup_entry, lookup_entry]
      split
      · exact .some hitem
      · exact ih names name

/-- What holds of all values holds of those that are found by their keys. -/
theorem forall_mem_iff_lookup {members : List (String × Json)}
    (hnodup : (members.map (·.1)).Nodup) {P : Json → Prop} :
    (∀ member ∈ members, P member.2) ↔
      ∀ (key : String) (value : Json), members.lookup key = some value → P value := by
  constructor
  · intro hall key value hlookup
    exact hall (key, value) ((lookup_eq_some_iff_mem hnodup).mp hlookup)
  · rintro hall ⟨key, value⟩ hmember
    exact hall key value ((lookup_eq_some_iff_mem hnodup).mpr hmember)

/-- What holds of related values alike holds of all members alike. -/
theorem SameParts.forall_mem_iff {members members' : List (String × Json)}
    (h : SameParts R members members') (hnodup : (members.map (·.1)).Nodup)
    (hnodup' : (members'.map (·.1)).Nodup) {P : Json → Prop}
    (hP : ∀ value value', R value value' → (P value ↔ P value')) :
    (∀ member ∈ members, P member.2) ↔ ∀ member ∈ members', P member.2 := by
  rw [forall_mem_iff_lookup hnodup, forall_mem_iff_lookup hnodup']
  refine forall_congr' fun key => ?_
  have hkey := h key
  generalize members.lookup key = found at hkey
  generalize members'.lookup key = found' at hkey
  cases hkey with
  | none => simp
  | some hvalue => simpa using hP _ _ hvalue

end Members

/-! ## Readers -/

/-- The reader gives the same of values that are the same up to the order of members. -/
def IgnoresOrder {α : Type} (read : Json → α) : Prop :=
  ∀ {value value' : Json}, SameUpToOrder value value' → read value = read value'

theorem allFit_iff {depth : Nat} {items : List Json} :
    allFit depth items = true ↔ ∀ item ∈ items, item.fits depth = true := by
  induction items with
  | nil => simp [allFit]
  | cons item rest ih => simp [allFit, ih]

theorem allMembersFit_iff {depth : Nat} {members : List (String × Json)} :
    allMembersFit depth members = true ↔ ∀ member ∈ members, member.2.fits depth = true := by
  induction members with
  | nil => simp [allMembersFit]
  | cons member rest ih => simp [allMembersFit, ih]

theorem forall₂_forall_mem_iff {R : Json → Json → Prop} {items items' : List Json}
    (h : List.Forall₂ R items items') {P : Json → Prop}
    (hP : ∀ value value', R value value' → (P value ↔ P value')) :
    (∀ item ∈ items, P item) ↔ ∀ item ∈ items', P item := by
  induction h with
  | nil => simp
  | cons hitem _ ih => rw [List.forall_mem_cons, List.forall_mem_cons, hP _ _ hitem, ih]

/-- Values nest as deep in every order of their members. -/
theorem fits_eq {value value' : Json} (h : SameUpToOrder value value') :
    ∀ depth, value.fits depth = value'.fits depth := by
  induction h with
  | null | bool | number | string | unreadable =>
    intro depth
    simp only [fits]
  | array hlength _ ih =>
    intro depth
    have hall := forall₂_forall_mem_iff (P := fun item => item.fits (depth - 1) = true)
      (forall₂_items hlength ih) fun _ _ heq => by rw [heq]
    rw [fits, fits, Bool.eq_iff_iff, Bool.and_eq_true, Bool.and_eq_true, allFit_iff, allFit_iff,
      hall]
  | object hnodup hnodup' hkeys _ ih =>
    intro depth
    have hall := (sameParts_of_keys hnodup hnodup' hkeys ih).forall_mem_iff hnodup hnodup'
      (P := fun value => value.fits (depth - 1) = true) fun _ _ heq => by rw [heq]
    rw [fits, fits, Bool.eq_iff_iff, Bool.and_eq_true, Bool.and_eq_true, allMembersFit_iff,
      allMembersFit_iff, hall]

theorem ignoresOrder_text? : IgnoresOrder text? := fun h => by cases h <;> rfl

theorem ignoresOrder_texts? : IgnoresOrder texts? := by
  intro value value' h
  cases h with
  | array hlength hitems =>
    have hall := forall₂_items hlength hitems
    clear hlength hitems
    show List.mapM text? _ = List.mapM text? _
    induction hall with
    | nil => rfl
    | cons hitem _ ih => rw [List.mapM_cons, List.mapM_cons, ignoresOrder_text? hitem, ih]
  | _ => rfl

/-- A reader that ignores the order does so where null is allowed. -/
theorem IgnoresOrder.nullable? {α : Type} {read : Json → Option α} (h : IgnoresOrder read) :
    IgnoresOrder (nullable? read) := by
  intro value value' hsame
  have hread := h hsame
  cases hsame with
  | null => rfl
  | _ => exact congrArg (Option.map some) hread

/-! ## Parts -/

/-- Objects that are the same up to order have the same parts. -/
theorem SameUpToOrder.sameParts {members members' : List (String × Json)}
    (h : SameUpToOrder (.object members) (.object members')) :
    SameParts SameUpToOrder members members' := by
  cases h with
  | object hnodup hnodup' hkeys hmembers => exact sameParts_of_keys hnodup hnodup' hkeys hmembers

/-- Where values have parts, they have the same ones under the same names. -/
theorem rel_parts? (names : List String) {value value' : Json} (h : SameUpToOrder value value') :
    Option.Rel (SameParts SameUpToOrder) (value.parts? names) (value'.parts? names) := by
  cases h with
  | null | bool | number | string | unreadable => exact .none
  | array hlength hitems =>
    simp only [parts?, hlength]
    split
    · exact .some (sameParts_zip names (forall₂_items hlength hitems))
    · exact .none
  | object hnodup hnodup' hkeys hmembers =>
    rw [parts?, parts?, if_pos (nodup_filter_keys hnodup _), if_pos (nodup_filter_keys hnodup' _)]
    exact .some ((sameParts_of_keys hnodup hnodup' hkeys hmembers).filter_keys _)

section Parts

variable {α β : Type} {read : Json → Option α}

/-- What goes on alike from related values gives the same. -/
theorem bind_eq_of_rel {γ δ : Type} {R : γ → δ → Prop} {found : Option γ} {found' : Option δ}
    (h : Option.Rel R found found') {next : γ → Option α} {next' : δ → Option α}
    (hnext : ∀ a a', R a a' → next a = next' a') : found.bind next = found'.bind next' := by
  cases h with
  | none => rfl
  | some h => exact hnext _ _ h

/-- A reader of parts ignores the order of members if it looks at the parts by their names. -/
theorem ignoresOrder_of_parts (names : List String) {next : List (String × Json) → Option α}
    (h : ∀ parts parts', SameParts SameUpToOrder parts parts' → next parts = next parts') :
    IgnoresOrder fun value => (value.parts? names).bind next :=
  fun hsame => bind_eq_of_rel (rel_parts? names hsame) h

/-- A reader that ignores the order reads the same parts alike. -/
theorem part?_eq {parts parts' : List (String × Json)} (h : SameParts SameUpToOrder parts parts')
    (hread : IgnoresOrder read) (name : String) (default : α) :
    part? parts name default read = part? parts' name default read := by
  have hname := h name
  unfold part?
  generalize parts.lookup name = found at hname
  generalize parts'.lookup name = found' at hname
  cases hname with
  | none => rfl
  | some hvalue => exact hread hvalue

/-! ## Dictionaries of members -/

theorem mapM_member?_cons (member : String × Json) (members : List (String × Json)) :
    (member :: members).mapM (member? read) =
      (read member.2).bind fun a =>
        (members.mapM (member? read)).map ((member.1, a) :: ·) := by
  rw [List.mapM_cons, member?]
  cases read member.2 <;> cases members.mapM (member? read) <;> rfl

/-- Members are read together if each of them is read. -/
theorem isSome_mapM_member? (members : List (String × Json)) :
    (members.mapM (member? read)).isSome = true ↔
      ∀ member ∈ members, (read member.2).isSome = true := by
  induction members with
  | nil => simp
  | cons member members ih =>
    rw [mapM_member?_cons, List.forall_mem_cons, ← ih]
    cases read member.2 <;> simp

theorem map_fst_of_mapM_member? {members : List (String × Json)} {entries : List (String × α)}
    (h : members.mapM (member? read) = some entries) :
    entries.map (·.1) = members.map (·.1) := by
  induction members generalizing entries with
  | nil =>
    cases h
    rfl
  | cons member members ih =>
    rw [mapM_member?_cons, Option.bind_eq_some_iff] at h
    obtain ⟨a, -, h⟩ := h
    obtain ⟨rest, hrest, rfl⟩ := Option.map_eq_some_iff.mp h
    rw [List.map_cons, List.map_cons, ih hrest]

/-- Under a key stands what is read of the value there. -/
theorem lookup_of_mapM_member? {members : List (String × Json)} {entries : List (String × α)}
    (h : members.mapM (member? read) = some entries) (key : String) :
    entries.lookup key = (members.lookup key).bind read := by
  induction members generalizing entries with
  | nil =>
    cases h
    rfl
  | cons member members ih =>
    obtain ⟨first, value⟩ := member
    rw [mapM_member?_cons, Option.bind_eq_some_iff] at h
    obtain ⟨a, ha, h⟩ := h
    obtain ⟨rest, hrest, rfl⟩ := Option.map_eq_some_iff.mp h
    rw [lookup_entry, lookup_entry, ih hrest]
    split
    · exact ha.symm
    · rfl

/-- **Members are put into the same dictionary in every order.** -/
theorem ofList_mapM_member? {members members' : List (String × Json)}
    (hnodup : (members.map (·.1)).Nodup) (hnodup' : (members'.map (·.1)).Nodup)
    (h : SameParts SameUpToOrder members members') (hread : IgnoresOrder read) :
    (members.mapM (member? read)).map Dictionary.ofList =
      (members'.mapM (member? read)).map Dictionary.ofList := by
  have hsome : (members.mapM (member? read)).isSome = (members'.mapM (member? read)).isSome := by
    rw [Bool.eq_iff_iff, isSome_mapM_member?, isSome_mapM_member?]
    exact h.forall_mem_iff hnodup hnodup' (P := fun value => (read value).isSome = true)
      fun _ _ hsame => by rw [hread hsame]
  cases hentries : members.mapM (member? read) with
  | none =>
    rw [hentries, Option.isSome_none, eq_comm, Option.isSome_eq_false_iff,
      Option.isNone_iff_eq_none] at hsome
    rw [hsome, Option.map_none]
  | some entries =>
    rw [hentries, Option.isSome_some, eq_comm, Option.isSome_iff_exists] at hsome
    obtain ⟨entries', hentries'⟩ := hsome
    rw [hentries']
    refine congrArg some (Dictionary.ext_get? fun key => ?_)
    have hkeys : (entries.map (·.1)).Nodup := map_fst_of_mapM_member? hentries ▸ hnodup
    have hkeys' : (entries'.map (·.1)).Nodup := map_fst_of_mapM_member? hentries' ▸ hnodup'
    rw [Dictionary.get?_ofList hkeys, Dictionary.get?_ofList hkeys',
      lookup_of_mapM_member? hentries, lookup_of_mapM_member? hentries']
    exact bind_eq_of_rel (h key) fun _ _ hsame => hread hsame

end Parts

end Json

end Almanac
