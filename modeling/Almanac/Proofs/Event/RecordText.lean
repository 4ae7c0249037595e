import Almanac.Proofs.Event.Independence

/-!
# The text of a record

A record is read from an object by its keys alone: their order, other keys and the place of
what is missing do not matter (`ofJson?_object_eq_some_iff`). Written, it has all its keys in
one order, and it is read back as it was, whatever its fields hold
(`records_are_read_back`).
-/

namespace Almanac

namespace EventRecord

open Json (part? nullable? text? parts?)

/-! ## Fields of an object -/

/-- The keys of the fields, in order. -/
def keys : List String := fields.map EventField.key

/-- What a member of an object may hold for a field: its text, or null for none. A member
that is left out holds no text either. -/
def Holds (value : Option Json) (text : Option String) : Prop :=
  value = some (fieldJson text) ∨ value = none ∧ text = none

theorem part?_eq_some_iff {parts : List (String × Json)} {key : String} {text : Option String} :
    part? parts key none (nullable? text?) = some text ↔ Holds (parts.lookup key) text := by
  unfold part? Holds
  cases parts.lookup key with
  | none => simp [eq_comm]
  | some value =>
    cases value with
    | null => cases text <;> simp [nullable?, fieldJson]
    | string t => cases text <;> simp [nullable?, text?, fieldJson]
    | bool | number | array | object | unreadable =>
      cases text <;> simp [nullable?, text?, fieldJson]

theorem lookup_filter_keys {names : List String} {key : String} (h : key ∈ names)
    (members : List (String × Json)) :
    (members.filter fun p => names.contains p.1).lookup key = members.lookup key :=
  (lookup_filter_key names.contains key members).trans (if_pos (by simpa using h))

theorem mapM_eq_some_map_iff {α β : Type} {f : α → Option β} {g : α → β} {l : List α} :
    l.mapM f = some (l.map g) ↔ ∀ a ∈ l, f a = some (g a) := by
  induction l with
  | nil => simp
  | cons a rest ih =>
    rw [List.mapM_cons, List.map_cons, List.forall_mem_cons, ← ih]
    cases f a <;> cases rest.mapM f <;> simp

theorem ofTexts?_eq_some_iff {texts : List (Option String)} {r : EventRecord} :
    ofTexts? texts = some r ↔ texts = fields.map r.get := by
  constructor
  · intro h
    unfold ofTexts? at h
    split at h
    · cases h
      rfl
    · cases h
  · rintro rfl
    rfl

/-- The members of an object that a record is read from. -/
def known (members : List (String × Json)) : List (String × Json) :=
  members.filter fun p => keys.contains p.1

theorem ofJson?_object (members : List (String × Json)) :
    ofJson? (.object members) =
      (parts? keys (.object members)).bind fun parts =>
        (fields.mapM fun field => part? parts field.key none (nullable? text?)).bind ofTexts? :=
  rfl

theorem map_fst_known (members : List (String × Json)) :
    (known members).map (·.1) = (members.map (·.1)).filter (· ∈ keys) := by
  rw [List.filter_map]
  exact congrArg _ (List.filter_congr fun p _ => by simp)

/-- The texts of a record are read from the members with the keys of fields. -/
theorem mapM_part?_known {members : List (String × Json)} {r : EventRecord} :
    (fields.mapM fun field => part? (known members) field.key none (nullable? text?)) =
        some (fields.map r.get) ↔
      ∀ field ∈ fields, Holds (members.lookup field.key) (r.get field) := by
  rw [mapM_eq_some_map_iff]
  refine forall₂_congr fun field hfield => ?_
  have hkey : field.key ∈ keys := List.mem_map_of_mem hfield
  rw [part?_eq_some_iff, known, lookup_filter_keys hkey]

/-- **A record is read from an object by its keys**: none of the keys of a record is there
twice, and each field has the text of the member with its key, or none where that is null or
left out. -/
theorem ofJson?_object_eq_some_iff {members : List (String × Json)} {r : EventRecord} :
    ofJson? (.object members) = some r ↔
      ((members.map (·.1)).filter (· ∈ keys)).Nodup ∧
        ∀ field ∈ fields, Holds (members.lookup field.key) (r.get field) := by
  rw [ofJson?_object, ← map_fst_known, ← mapM_part?_known]
  by_cases hnodup : ((known members).map (·.1)).Nodup
  · have hparts : parts? keys (.object members) = some (known members) := if_pos hnodup
    rw [hparts, Option.bind_some, Option.bind_eq_some_iff]
    simp only [ofTexts?_eq_some_iff, exists_eq_right, hnodup, true_and]
  · have hparts : parts? keys (.object members) = none := if_neg hnodup
    rw [hparts, Option.bind_none]
    simp only [hnodup, false_and, reduceCtorEq]

/-! ## Written records -/

theorem lookup_map_key (value : EventField → Json) {field : EventField}
    {l : List EventField} (h : field ∈ l) :
    (l.map fun f => (f.key, value f)).lookup field.key = some (value field) := by
  induction l with
  | nil => cases h
  | cons first rest ih =>
    rw [List.map_cons, lookup_entry]
    by_cases heq : field = first
    · rw [heq, if_pos rfl]
    · have hne : field.key ≠ first.key := fun hkey => heq (EventField.key_injective hkey)
      rw [if_neg hne, ih ((List.mem_cons.mp h).resolve_left heq)]

/-- The members of a record that is written. -/
def members (r : EventRecord) : List (String × Json) :=
  fields.map fun field => (field.key, fieldJson (r.get field))

theorem read?_jsonText (r : EventRecord) : Json.read? r.jsonText = some (.object r.members) := by
  refine Json.read?_write (Json.readBack_object Json.isLoose_compactSpacing ?_)
  intro member hmember
  obtain ⟨field, -, rfl⟩ := List.mem_map.mp hmember
  cases r.get field with
  | none => exact Json.readBack_null _
  | some text => exact Json.readBack_string _ text

/-- A record is read back from its text. -/
theorem ofText?_jsonText (r : EventRecord) : ofText? r.jsonText = some r := by
  unfold ofText?
  rw [read?_jsonText, Option.bind_some, ofJson?_object_eq_some_iff]
  have hkeys : r.members.map (·.1) = keys := rfl
  refine ⟨by rw [hkeys]; decide, fun field hfield => .inl ?_⟩
  exact lookup_map_key (fun f => fieldJson (r.get f)) hfield

/-- **Records survive being written**: the text of a record is an object with all keys in one order,
and gives the record back. A record is read from an object by the keys alone, and what was read from
a text in any form is read again from the text it is written as. -/
theorem records_are_read_back :
    (∀ r : EventRecord, ofText? r.jsonText = some r ∧
      ∃ members, Json.read? r.jsonText = some (.object members) ∧
        members.map (·.1) =
          ["title", "perex", "datetime", "location", "gps", "organizer", "types"] ∧
        ∀ field ∈ fields, members.lookup field.key = some (fieldJson (r.get field))) ∧
      (∀ (text : String) (members : List (String × Json)),
        Json.read? text = some (.object members) →
        ((members.map (·.1)).filter (· ∈ keys)).Nodup → ∀ r : EventRecord,
          ofText? text = some r ↔
            ∀ field ∈ fields, Holds (members.lookup field.key) (r.get field)) ∧
      ∀ (text : String) (r : EventRecord), ofText? text = some r →
        ∃ again, ofText? r.jsonText = some again ∧ again = r ∧ again.jsonText = r.jsonText := by
  refine ⟨fun r => ⟨r.ofText?_jsonText, r.members, r.read?_jsonText, rfl, ?_⟩, ?_, ?_⟩
  · intro field hfield
    exact lookup_map_key (fun f => fieldJson (r.get f)) hfield
  · intro text members hread hnodup r
    unfold ofText?
    rw [hread, Option.bind_some, ofJson?_object_eq_some_iff]
    exact and_iff_right hnodup
  · intro text r _
    exact ⟨r, r.ofText?_jsonText, rfl, rfl⟩

/-- Members in another order than that of a record, one of them with a key that no record has,
and none for most fields. -/
def shuffled : List (String × Json) :=
  [("types", .null), ("vstup", .array [.string "x"]), ("title", .string "\"A\"\n")]

theorem records_are_read_back_shuffled :
    let text := "\x7b\"types\": null, \"vstup\": [\"x\"], \"title\": \"\\\"A\\\"\\n\"\x7d"
    let r : EventRecord := { title := some "\"A\"\n" }
    Json.read? text = some (.object shuffled) ∧
      ((shuffled.map (·.1)).filter (· ∈ keys)).Nodup ∧ ofText? text = some r ∧
      ∃ again, ofText? r.jsonText = some again ∧ again = r ∧ again.jsonText = r.jsonText := by
  intro text r
  have hread : Json.read? text = some (.object shuffled) := by
    have htext : text = Json.storedText (.object shuffled) := by decide +kernel
    rw [htext]
    refine Json.read?_write (Json.readBack_object Json.isLoose_storedSpacing ?_)
    have hlist : Json.ReadBack Json.storedSpacing (.array [.string "x"]) :=
      Json.readBack_array Json.isLoose_storedSpacing
        (List.forall_mem_singleton.mpr (Json.readBack_string _ "x"))
    simp only [shuffled, List.forall_mem_cons]
    exact ⟨Json.readBack_null _, hlist, Json.readBack_string _ _, nofun⟩
  have hnodup : ((shuffled.map (·.1)).filter (· ∈ keys)).Nodup := by decide
  have htext : ofText? text = some r := by
    refine (records_are_read_back.2.1 text shuffled hread hnodup r).mpr fun field hfield => ?_
    cases field with
    | title | types => exact .inl rfl
    | date | time => exact absurd hfield (by decide)
    | perex | datetime | location | gps | organizer => exact .inr ⟨rfl, rfl⟩
  exact ⟨hread, hnodup, htext, records_are_read_back.2.2 text r htext⟩

end EventRecord

end Almanac
