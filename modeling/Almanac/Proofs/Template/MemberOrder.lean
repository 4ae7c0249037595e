import Almanac.Proofs.Event.StoredLists
import Almanac.Proofs.Json.MemberOrder
import Almanac.Proofs.Store.History

/-!
# The order of members in a template

The readers of templates look at parts by their names alone, from the whole template
(`Json.ignoresOrder_template?`) down to the rule for repeated matches. The fields of a page are
put into a dictionary, the keys of which are the names that the text gives
(`Json.mem_fieldKeys_iff`). The check finds the first unknown name in the order of the names,
which is not that of the text (`Template.check_cases`). So two texts of the same value give the
same template or the same error (`Template.ofText_member_order`).
-/

namespace Almanac

namespace Json

/-! ## Readers of rules -/

theorem ignoresOrder_keep? : IgnoresOrder keep? := fun h => by
  rw [keep?, keep?, fits_eq h, ignoresOrder_text? h]

theorem ignoresOrder_textMembers? : IgnoresOrder textMembers? := by
  intro value value' h
  have hparts := h
  cases h with
  | object hnodup hnodup' _ _ =>
    exact ofList_mapM_member? hnodup hnodup' hparts.sameParts ignoresOrder_text?
  | _ => rfl

theorem ignoresOrder_selectorRule? : IgnoresOrder selectorRule? := by
  refine ignoresOrder_of_parts _ fun parts parts' hparts => ?_
  refine bind_eq_of_rel (hparts "selectors") fun selectors selectors' hselectors => ?_
  rw [ignoresOrder_texts? hselectors, part?_eq hparts ignoresOrder_keep?,
    part?_eq hparts ignoresOrder_texts?, part?_eq hparts ignoresOrder_text?.nullable?,
    part?_eq hparts ignoresOrder_text?.nullable?]

theorem ignoresOrder_patternRule? : IgnoresOrder patternRule? := by
  refine ignoresOrder_of_parts _ fun parts parts' hparts => ?_
  refine bind_eq_of_rel (hparts "expressions") fun patterns patterns' hpatterns => ?_
  rw [ignoresOrder_texts? hpatterns, part?_eq hparts ignoresOrder_textMembers?.nullable?,
    part?_eq hparts ignoresOrder_keep?]

theorem ignoresOrder_roots? : IgnoresOrder roots? := by
  refine ignoresOrder_of_parts _ fun parts parts' hparts => ?_
  exact bind_eq_of_rel (hparts "xpath") fun _ _ hroots => ignoresOrder_selectorRule? hroots

theorem ignoresOrder_fieldRule? : IgnoresOrder fieldRule? := by
  intro value value' h
  unfold fieldRule?
  rw [fits_eq h]
  refine congrArg (Option.bind _) (funext fun _ => ?_)
  refine bind_eq_of_rel (rel_parts? _ h) fun parts parts' hparts => ?_
  refine bind_eq_of_rel (hparts "xpath") fun selection selection' hselection => ?_
  rw [ignoresOrder_selectorRule? hselection, part?_eq hparts ignoresOrder_patternRule?.nullable?,
    part?_eq hparts ignoresOrder_texts?]

/-! ## Readers of pages and templates -/

/-- Members that do not hold the roots of a page hold the rules of its fields. -/
def fieldMembers (members : List (String × Json)) : List (String × Json) :=
  members.filter (·.1 != "root")

/-- The rule of a page has the roots that are found by their name, and the rules of all other
members by theirs. -/
theorem pageRule?_object {members : List (String × Json)} (h : (members.map (·.1)).Nodup) :
    pageRule? (.object members) = (members.lookup "root").bind fun root =>
      root.roots?.bind fun roots =>
        (((fieldMembers members).mapM (member? fieldRule?)).map Dictionary.ofList).map
          fun fields => { roots, fields } := by
  rw [pageRule?, filter_key_eq h]
  cases members.lookup "root" with
  | none => rfl
  | some root =>
    refine congrArg (Option.bind root.roots?) (funext fun roots => ?_)
    rw [fieldMembers]
    cases (members.filter (·.1 != "root")).mapM (member? fieldRule?) <;> rfl

/-- The order of members does not matter for the rule of a page. -/
theorem ignoresOrder_pageRule? : IgnoresOrder pageRule? := by
  intro value value' h
  have hparts := h
  cases h with
  | object hnodup hnodup' _ _ =>
    have hfields := ofList_mapM_member? (nodup_filter_keys hnodup (· != "root"))
      (nodup_filter_keys hnodup' (· != "root")) (hparts.sameParts.filter_keys (· != "root"))
      ignoresOrder_fieldRule?
    rw [pageRule?_object hnodup, pageRule?_object hnodup']
    refine bind_eq_of_rel (hparts.sameParts "root") fun root root' hroot => ?_
    rw [ignoresOrder_roots? hroot, fieldMembers, fieldMembers, hfields]
  | _ => rfl

/-- **Templates are read alike in every order of members.** -/
theorem ignoresOrder_template? (name : String) : IgnoresOrder (template? name) := by
  refine ignoresOrder_of_parts _ fun parts parts' hparts => ?_
  rw [part?_eq hparts ignoresOrder_pageRule?.nullable?,
    part?_eq hparts ignoresOrder_pageRule?.nullable?]

/-! ## The names of fields -/

/-- The names of the fields that a page declares. -/
def pageFieldNames : Json → List String
  | .object members => (fieldMembers members).map (·.1)
  | _ => []

/-- The names of the fields that a template declares on a page. -/
def fieldNames (value : Json) (page : Page) : List String :=
  ((value.parts? ["calendar", "event"]).bind (·.lookup page.name)).elim [] pageFieldNames

/-- The rule of a page has the fields that the page declares. -/
theorem mem_keys_of_pageRule? {value : Json} {rule : PageRule} (h : pageRule? value = some rule)
    (key : String) : key ∈ rule.fields.keys ↔ key ∈ value.pageFieldNames := by
  unfold pageRule? at h
  split at h
  · next members =>
    split at h
    · simp only [Option.bind_eq_bind, Option.bind_eq_some_iff] at h
      obtain ⟨roots, -, rules, hrules, h⟩ := h
      cases h
      rw [Dictionary.mem_keys_ofList, map_fst_of_mapM_member? hrules]
      rfl
    · cases h
  · cases h

end Json

/-- The names of the fields that a template has on a page. -/
def Template.fieldKeys (t : Template) (page : Page) : List String :=
  (t.page? page).elim [] (·.fields.keys)

namespace Json

theorem mem_keys_of_part? {parts : List (String × Json)} (page : Page) {rule : Option PageRule}
    (h : part? parts page.name none (nullable? pageRule?) = some rule) (key : String) :
    key ∈ rule.elim [] (·.fields.keys) ↔
      key ∈ (parts.lookup page.name).elim [] pageFieldNames := by
  unfold part? at h
  split at h
  · next hlookup =>
    cases h
    rw [hlookup]
    rfl
  · next value hlookup =>
    rw [hlookup]
    unfold nullable? at h
    split at h
    · cases h
      rfl
    · obtain ⟨rule, hrule, rfl⟩ := Option.map_eq_some_iff.mp h
      exact mem_keys_of_pageRule? hrule key

/-- A template has the fields that its text declares. -/
theorem mem_fieldKeys_iff {name : String} {value : Json} {t : Template}
    (h : template? name value = some t) (page : Page) (key : String) :
    key ∈ t.fieldKeys page ↔ key ∈ value.fieldNames page := by
  simp only [template?, Option.bind_eq_bind, Option.bind_eq_some_iff] at h
  obtain ⟨parts, hparts, calendar, hcalendar, event, hevent, h⟩ := h
  cases h
  rw [fieldNames, hparts, Option.bind_some]
  cases page with
  | calendar => exact mem_keys_of_part? .calendar hcalendar key
  | event => exact mem_keys_of_part? .event hevent key

end Json

/-! ## The check -/

/-- The page can have a field of this name. -/
def Page.Knows : Page → String → Prop
  | .calendar, key => key = eventLinkKey
  | .event, key => ∃ field : EventField, field.key = key

/-- Of the names on the pages this is the least one that its page cannot have; there is none on
the calendar page, which comes first, if the page is another. -/
structure IsFirstUnknown (names : Page → List String) (page : Page) (key : String) : Prop where
  declared : key ∈ names page
  unknown : ¬ page.Knows key
  least : ∀ other ∈ names page, ¬ page.Knows other → key ≤ other
  earlier : page = .event → ∀ other ∈ names .calendar, Page.calendar.Knows other

theorem IsFirstUnknown.congr {names names' : Page → List String} {page : Page} {key : String}
    (h : IsFirstUnknown names page key)
    (hnames : ∀ page key, key ∈ names page ↔ key ∈ names' page) :
    IsFirstUnknown names' page key where
  declared := (hnames page key).mp h.declared
  unknown := h.unknown
  least other hother := h.least other ((hnames page other).mpr hother)
  earlier hpage other hother := h.earlier hpage other ((hnames .calendar other).mpr hother)

/-- In a list in order, the first entry with a property is the least one. -/
theorem le_of_find?_eq_some {keys : List String} (h : keys.Pairwise (· < ·)) {p : String → Bool}
    {key : String} (hfind : keys.find? p = some key) {other : String} (hother : other ∈ keys)
    (hp : p other = true) : key ≤ other := by
  obtain ⟨-, before, after, rfl, hbefore⟩ := List.find?_eq_some_iff_append.mp hfind
  obtain hmem | hmem := List.mem_append.mp hother
  · simpa [hp] using hbefore other hmem
  · obtain rfl | hmem := List.mem_cons.mp hmem
    · exact String.le_refl _
    · have hafter := (List.pairwise_append.mp h).2.1
      exact Std.le_of_lt ((List.pairwise_cons.mp hafter).1 other hmem)

namespace Template

/-- The names of fields are in order, without repetitions. -/
theorem pairwise_fieldKeys (t : Template) (page : Page) : (t.fieldKeys page).Pairwise (· < ·) := by
  unfold fieldKeys
  cases t.page? page with
  | none => exact .nil
  | some rule => exact rule.fields.pairwise_keys

section Check

variable {t : Template} {page : Page} {p : String → Bool}

theorem forall_knows_of_find? (hp : ∀ key, p key = true ↔ ¬ page.Knows key)
    (h : (t.fieldKeys page).find? p = none) : ∀ key ∈ t.fieldKeys page, page.Knows key := by
  intro key hkey
  by_contra hunknown
  exact List.find?_eq_none.mp h key hkey ((hp key).mpr hunknown)

theorem isFirstUnknown_of_find? {key : String} (hp : ∀ key, p key = true ↔ ¬ page.Knows key)
    (h : (t.fieldKeys page).find? p = some key)
    (hearlier : page = .event → ∀ other ∈ t.fieldKeys .calendar, Page.calendar.Knows other) :
    IsFirstUnknown t.fieldKeys page key where
  declared := List.mem_of_find?_eq_some h
  unknown := (hp key).mp (List.find?_some h)
  least other hother hunknown :=
    le_of_find?_eq_some (t.pairwise_fieldKeys page) h hother ((hp other).mpr hunknown)
  earlier := hearlier

theorem decide_ne_eventLinkKey (key : String) :
    decide (key ≠ eventLinkKey) = true ↔ ¬ Page.calendar.Knows key := decide_eq_true_iff

theorem isNone_ofKey? (key : String) :
    (EventField.ofKey? key).isNone = true ↔ ¬ Page.event.Knows key := by
  rw [Option.isNone_iff_eq_none, ← not_iff_not, not_not, ← ne_eq, Option.ne_none_iff_exists']
  constructor
  · rintro ⟨field, hfield⟩
    exact ⟨field, by simpa using List.find?_some hfield⟩
  · rintro ⟨field, rfl⟩
    exact ⟨field, EventField.ofKey?_key field⟩

end Check

/-- A template that passes the check is kept as it is, and its pages can have all its fields. -/
theorem check_eq_ok {t t' : Template} (h : t.check = .ok t') :
    t' = t ∧ ∀ page, ∀ key ∈ t.fieldKeys page, page.Knows key := by
  unfold check at h
  split at h
  · cases h
  · cases h
  · next hcalendar hevent =>
    cases h
    refine ⟨rfl, fun page => ?_⟩
    cases page with
    | calendar => exact forall_knows_of_find? decide_ne_eventLinkKey hcalendar
    | event => exact forall_knows_of_find? isNone_ofKey? hevent

/-- A template that does not pass has an unknown name, and the first is reported. -/
theorem check_eq_error {t : Template} {e : Error} (h : t.check = .error e) :
    ∃ page key, e = .unknownField t.name page key ∧ IsFirstUnknown t.fieldKeys page key := by
  unfold check at h
  split at h
  · next key hcalendar =>
    cases h
    exact ⟨.calendar, key, rfl, isFirstUnknown_of_find? decide_ne_eventLinkKey hcalendar nofun⟩
  · next key hcalendar hevent =>
    cases h
    refine ⟨.event, key, rfl, isFirstUnknown_of_find? isNone_ofKey? hevent fun _ => ?_⟩
    exact forall_knows_of_find? decide_ne_eventLinkKey hcalendar
  · cases h

/-! ## Templates of texts -/

/-- A text is malformed, or what it says is checked. -/
theorem ofText_cases (name text : String) :
    ((Json.read? text).bind (Json.template? name) = none ∧
        ofText name text = .error (.templateMalformed name)) ∨
      ∃ value t, Json.read? text = some value ∧ value.template? name = some t ∧
        ofText name text = t.check := by
  unfold ofText
  cases h : (Json.read? text).bind (Json.template? name) with
  | none => exact .inl ⟨rfl, rfl⟩
  | some t =>
    obtain ⟨value, hvalue, ht⟩ := Option.bind_eq_some_iff.mp h
    exact .inr ⟨value, t, hvalue, ht, rfl⟩

/-- **The order of members in a template does not matter**: two texts of values that are the same up
to this order give the same template or the same error. An unknown field that is named is the least
on the first page that has one. Each rule of an event page is for a field it can have. -/
theorem ofText_member_order :
    (∀ (name text text' : String) (value value' : Json), Json.read? text = some value →
      Json.read? text' = some value' → value.SameUpToOrder value' →
      ofText name text = ofText name text') ∧
    (∀ (name text : String) (e : Error), ofText name text = .error e →
      ((Json.read? text).bind (Json.template? name) = none ∧ e = .templateMalformed name) ∨
      ∃ value page key, Json.read? text = some value ∧ e = .unknownField name page key ∧
        IsFirstUnknown value.fieldNames page key) ∧
    ∀ (name text : String) (t : Template), ofText name text = .ok t →
      (∀ page, ∀ key ∈ t.fieldKeys page, page.Knows key) ∧
      ∀ (rules : PageRule) (key : String) (rule : FieldRule), t.event = some rules →
        rules.fields.get? key = some rule →
        ∃ field ∈ EventField.all, field.key = key ∧ ∀ (doc : Document) (roots : List Nat),
          (Extraction.extractFields doc roots rules EventField.all).value.lookup field =
            some (Extraction.extractField doc roots field rule).value := by
  refine ⟨?_, ?_, ?_⟩
  · intro name text text' value value' hvalue hvalue' hsame
    rw [ofText, ofText, hvalue, hvalue', Option.bind_some, Option.bind_some,
      Json.ignoresOrder_template? name hsame]
  · intro name text e he
    obtain ⟨hnone, h⟩ | ⟨value, t, hvalue, ht, h⟩ := ofText_cases name text
    · rw [h] at he
      cases he
      exact .inl ⟨hnone, rfl⟩
    · rw [h] at he
      obtain ⟨page, key, rfl, hfirst⟩ := check_eq_error he
      rw [Json.name_of_template? ht]
      exact .inr ⟨value, page, key, hvalue, rfl, hfirst.congr (Json.mem_fieldKeys_iff ht)⟩
  · intro name text t ht
    obtain ⟨-, h⟩ | ⟨value, read, -, -, h⟩ := ofText_cases name text
    · rw [h] at ht
      cases ht
    · rw [h] at ht
      obtain ⟨rfl, hknown⟩ := check_eq_ok ht
      refine ⟨hknown, fun rules key rule hrules hrule => ?_⟩
      have hkey : key ∈ t.fieldKeys .event := by
        rw [fieldKeys, page?, hrules, Option.elim_some, Dictionary.keys, ← lookup_isSome_iff]
        exact Option.isSome_of_eq_some hrule
      obtain ⟨field, rfl⟩ := hknown .event key hkey
      have hall : field ∈ EventField.all := by cases field <;> decide
      refine ⟨field, hall, rfl, fun doc roots => ?_⟩
      rw [Extraction.lookup_extractFields, if_pos hall, hrule, Option.map_some]

/-! ## Templates with bare rules -/

/-- A rule without selectors, as an array of its parts. -/
def bareRule : Json := .array [.array [.array []]]

/-- A template of an event page with these members, each of them a bare rule. -/
def bareTemplate (names : List String) : Json :=
  .object [("event", .object (names.map (·, bareRule)))]

theorem read?_bareTemplate (names : List String) :
    Json.read? (bareTemplate names).storedText = some (bareTemplate names) := by
  have hloose := Json.isLoose_storedSpacing
  have hrule : Json.ReadBack Json.storedSpacing bareRule := by
    refine Json.readBack_array hloose (List.forall_mem_singleton.mpr ?_)
    refine Json.readBack_array hloose (List.forall_mem_singleton.mpr ?_)
    exact Json.readBack_array hloose nofun
  refine Json.read?_write (Json.readBack_object hloose (List.forall_mem_singleton.mpr ?_))
  refine Json.readBack_object hloose fun member hmember => ?_
  obtain ⟨name, -, rfl⟩ := List.mem_map.mp hmember
  exact hrule

theorem sameUpToOrder_bareRule : bareRule.SameUpToOrder bareRule := by
  have hone {item : Json} (h : item.SameUpToOrder item) :
      (Json.array [item]).SameUpToOrder (.array [item]) := by
    refine .array rfl fun i value value' hi hi' => ?_
    cases i with
    | zero =>
      cases hi
      cases hi'
      exact h
    | succ => simp at hi
  exact hone (hone (.array rfl nofun))

/-- Templates of bare rules with the same names are the same up to order. -/
theorem sameUpToOrder_bareTemplate {names names' : List String} (hnodup : names.Nodup)
    (hnodup' : names'.Nodup) (hnames : ∀ name, name ∈ names ↔ name ∈ names') :
    (bareTemplate names).SameUpToOrder (bareTemplate names') := by
  have hkeys (names : List String) : (names.map (·, bareRule)).map (·.1) = names := by
    rw [List.map_map]
    exact List.map_id names
  refine .object (by simp) (by simp) (by simp) fun key value value' hvalue hvalue' => ?_
  cases List.mem_singleton.mp hvalue
  cases List.mem_singleton.mp hvalue'
  refine .object (by rwa [hkeys]) (by rwa [hkeys]) (by rwa [hkeys, hkeys]) ?_
  intro name rule rule' hrule hrule'
  obtain ⟨_, -, hrule⟩ := List.mem_map.mp hrule
  obtain ⟨_, -, hrule'⟩ := List.mem_map.mp hrule'
  cases hrule
  cases hrule'
  exact sameUpToOrder_bareRule

theorem ofText_member_order_bare :
    let text := (bareTemplate ["b", "a", "root"]).storedText
    let text' := (bareTemplate ["root", "a", "b"]).storedText
    let known := (bareTemplate ["title", "root"]).storedText
    ofText "t" text = ofText "t" text' ∧
      ofText "t" text = .error (.unknownField "t" .event "a") ∧
      IsFirstUnknown (bareTemplate ["b", "a", "root"]).fieldNames .event "a" ∧
      ∃ t, ofText "t" known = .ok t ∧ t.fieldKeys .event = ["title"] ∧
        ∀ page, ∀ key ∈ t.fieldKeys page, page.Knows key := by
  intro text text' known
  have hread : Json.read? text = some (bareTemplate ["b", "a", "root"]) := read?_bareTemplate _
  have herror : ofText "t" text = .error (.unknownField "t" .event "a") := by
    rw [ofText, hread]
    rfl
  have hsame := ofText_member_order.1 "t" text text' _ _ hread (read?_bareTemplate _)
    (sameUpToOrder_bareTemplate (by decide) (by decide) (by simp [or_comm, or_left_comm]))
  refine ⟨hsame, herror, ?_, ?_⟩
  · obtain ⟨-, hmalformed⟩ | ⟨value, page, key, hvalue, hkey, hfirst⟩ :=
      ofText_member_order.2.1 "t" text _ herror
    · cases hmalformed
    · cases hkey
      cases hread.symm.trans hvalue
      exact hfirst
  · obtain ⟨t, ht, hkeys⟩ : ∃ t, ofText "t" known = .ok t ∧ t.fieldKeys .event = ["title"] := by
      rw [ofText, read?_bareTemplate]
      exact ⟨_, rfl, rfl⟩
    exact ⟨t, ht, hkeys, (ofText_member_order.2.2 "t" known t ht).1⟩

end Template

end Almanac
