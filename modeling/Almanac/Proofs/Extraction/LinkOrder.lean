import Mathlib
import Almanac.Proofs.Selector.DocumentOrder
import Almanac.Proofs.Selector.Scope
import Almanac.Session

/-!
# The order of event links

The links of a calendar page are found by searches, each of one root with one selector. What
one search finds is in document order, since a selector gives its items in it. The searches
follow one another root by root, and in each root selector by selector, so all links are in
document order just when no search finds a link that comes after one of a later search
(`eventLinks_order`): several selectors, or a root inside another, can break the order.
-/

namespace Almanac

open Selector Text

/-! ## Downward expressions stay in the tree -/

namespace Selector

variable {doc : Document}

theorem atOrWithin_of_downward {expr : Expr} (hexpr : Fragment.downward.has expr = true)
    (root : Nat) : ∀ a ∈ (valueAt doc expr root).toItems, doc.AtOrWithin root a.holder := by
  intro a ha
  have hvalue := Correspondence.onValue_valueAt
    (Correspondence.shift_carries (.refl doc root)) hexpr (Document.InPlace.refl root root)
  obtain ⟨b, -, hab⟩ := Correspondence.exists_partner hvalue.toItems a ha
  cases hab with
  | node h | attr h _ => exact h.1

/-- What is in the tree of a node comes before what is in the tree of a later node that is
not in the tree of the first. -/
theorem Item.before_of_apart {n m : Nat} {a b : Item} (hafter : n < m) (hout : ¬ doc.Within n m)
    (ha : doc.AtOrWithin n a.holder) (hb : doc.AtOrWithin m b.holder) : a.Before b := by
  have hlast : doc.last n < m :=
    Nat.lt_of_not_le fun h => hout (Document.within_iff.mpr ⟨hafter, h⟩)
  have ha := Document.atOrWithin_iff.mp ha
  have hb := Document.atOrWithin_iff.mp hb
  have hholder : a.holder < b.holder := by omega
  cases a <;> cases b <;> exact .inl hholder

end Selector

namespace Extraction

/-! ## Links and the items that they are read from -/

/-- A link that is found. -/
structure FoundLink where
  /-- The item whose text it is, unless the selector gives a text that is no item's. -/
  source : Option Item
  text : String
  deriving Repr, DecidableEq

/-- A link comes after another if it is read from an item that does. -/
def FoundLink.ComesAfter (doc : Document) (link other : FoundLink) : Prop :=
  ∃ a b, link.source = some a ∧ other.source = some b ∧ b.Precedes doc a

/-- No link comes after one that is listed behind it. -/
def InDocumentOrder (doc : Document) (links : List FoundLink) : Prop :=
  links.Pairwise fun link later => ¬ link.ComesAfter doc later

/-- The texts of a value and the items that they are those of. -/
def foundTexts (doc : Document) : Value → List FoundLink
  | .items items => items.map fun a => ⟨some a, a.stringValue doc⟩
  | value => (value.texts doc).map fun text => ⟨none, text⟩

/-- The links that a search of a root with a selector finds: its texts, trimmed, but for those
that are blank. -/
def linksOf (doc : Document) (search : Nat × Expr) : List FoundLink :=
  ((foundTexts doc (valueAt doc search.2 search.1)).map fun found =>
    { found with text := trim found.text }).filter (!·.text.isEmpty)

/-- The searches for links on a calendar page: those of the first root with each selector,
then those of the next. -/
def linkSearches (doc : Document) (page : PageRule) : List (Nat × Expr) :=
  match page.fields.get? eventLinkKey with
  | none => []
  | some rule =>
    (findRoots doc .calendar page.roots).value.flatMap fun root =>
      (readSelectors eventLinkKey rule.selection.selectors).value.map fun selector =>
        (root, selector)

/-- The links that are found on a calendar page. -/
def foundLinks (doc : Document) (page : PageRule) : List FoundLink :=
  (linkSearches doc page).flatMap (linksOf doc)

/-! ## What is answered -/

variable {doc : Document}

theorem map_text_foundTexts (value : Value) :
    (foundTexts doc value).map FoundLink.text = value.texts doc := by
  unfold foundTexts
  split
  · next items => rw [List.map_map]; rfl
  · next other => rw [List.map_map]; exact List.map_id _

theorem map_text_linksOf (search : Nat × Expr) :
    (linksOf doc search).map FoundLink.text =
      ((selectStrings doc search.2 search.1).map trim).filter (!·.isEmpty) := by
  rw [linksOf, selectStrings, ← map_text_foundTexts, List.map_map, List.filter_map,
    List.filter_map, List.map_map]
  rfl

theorem value_linksIn (roots : List Nat) (rule : FieldRule) :
    (linksIn doc roots rule).value =
      (roots.flatMap fun root =>
        (readSelectors eventLinkKey rule.selection.selectors).value.flatMap fun selector =>
          (linksOf doc (root, selector)).map FoundLink.text) := by
  simp only [map_text_linksOf]
  simp only [linksIn, selectTexts, Noted.bind, List.map_flatMap, List.filter_flatMap]

/-- The links are answered in the order of the searches. -/
theorem value_eventLinks (template : Template) (doc : Document) :
    (eventLinks template (some doc)).map Noted.value =
      (template.page .calendar).map fun page => (foundLinks doc page).map FoundLink.text := by
  unfold eventLinks
  cases template.page .calendar with
  | error e => rfl
  | ok page =>
    refine congrArg Except.ok ?_
    simp only [Noted.bind, foundLinks, linkSearches]
    cases hroots : (findRoots doc .calendar page.roots).value with
    | nil => cases page.fields.get? eventLinkKey <;> rfl
    | cons root rest =>
      cases page.fields.get? eventLinkKey with
      | none => rfl
      | some rule =>
        simp only [List.isEmpty_cons, Bool.false_eq_true, if_false, value_linksIn,
          List.map_flatMap, List.flatMap_assoc, List.flatMap_map]

/-! ## Their order -/

variable {page : PageRule}

/-- What one search finds is in document order. -/
theorem inDocumentOrder_linksOf (doc : Document) (search : Nat × Expr) :
    InDocumentOrder doc (linksOf doc search) := by
  have htexts : InDocumentOrder doc (foundTexts doc (valueAt doc search.2 search.1)) := by
    have hitems : (valueAt doc search.2 search.1).toItems.Pairwise Item.Before :=
      pairwise_evaluate doc search.2 _
    unfold foundTexts
    split
    · next items hvalue =>
      rw [hvalue] at hitems
      refine List.pairwise_map.mpr (hitems.imp fun {a b} hab => ?_)
      rintro ⟨_, _, ⟨⟩, ⟨⟩, hba⟩
      exact hab.asymm hba.before
    · refine List.pairwise_map.mpr (List.pairwise_of_forall fun text other => ?_)
      rintro ⟨_, _, h, -⟩
      cases h
  -- trimming changes no source
  refine List.Pairwise.filter _ (List.pairwise_map.mpr ?_)
  exact htexts

theorem inDocumentOrder_foundLinks_iff :
    InDocumentOrder doc (foundLinks doc page) ↔ (linkSearches doc page).Pairwise
      fun search later => ∀ link ∈ linksOf doc search, ∀ other ∈ linksOf doc later,
        ¬ link.ComesAfter doc other := by
  rw [InDocumentOrder, foundLinks, List.pairwise_flatMap]
  exact and_iff_right fun search _ => inDocumentOrder_linksOf doc search

theorem mem_toItems_of_source {search : Nat × Expr} {link : FoundLink} {a : Item}
    (hlink : link ∈ linksOf doc search) (ha : link.source = some a) :
    a ∈ (valueAt doc search.2 search.1).toItems := by
  obtain ⟨found, hfound, rfl⟩ := List.mem_map.mp (List.mem_of_mem_filter hlink)
  unfold foundTexts at hfound
  split at hfound
  · next items hvalue =>
    obtain ⟨b, hb, rfl⟩ := List.mem_map.mp hfound
    cases ha
    rw [hvalue]
    exact hb
  · obtain ⟨text, -, rfl⟩ := List.mem_map.mp hfound
    cases ha

/-- Downward selectors find nothing in a root that comes after what they find in a later root
outside of it. -/
theorem not_comesAfter_of_apart {search later : Nat × Expr}
    (hsearch : Fragment.downward.has search.2 = true)
    (hlater : Fragment.downward.has later.2 = true)
    (hafter : Item.Precedes doc (.node search.1) (.node later.1))
    (hout : ¬ doc.Within search.1 later.1) :
    ∀ link ∈ linksOf doc search, ∀ other ∈ linksOf doc later, ¬ link.ComesAfter doc other := by
  rintro link hlink other hother ⟨a, b, ha, hb, hba⟩
  have hlt : search.1 < later.1 := by
    rcases hafter.before with h | ⟨-, h⟩
    · exact h
    · exact absurd h (Nat.lt_irrefl 0)
  have hain := atOrWithin_of_downward hsearch search.1 a (mem_toItems_of_source hlink ha)
  have hbin := atOrWithin_of_downward hlater later.1 b (mem_toItems_of_source hother hb)
  exact (Item.before_of_apart hlt hout hain hbin).asymm hba.before

end Extraction

namespace Session

open Extraction

theorem answer_eventLinks (s : Session) (doc : Document) :
    (s.setDocument doc).eventLinks.1 =
      (s.template.page .calendar).map fun page => (foundLinks doc page).map FoundLink.text := by
  rw [← value_eventLinks]
  simp only [eventLinks, setDocument, conclude]
  cases Extraction.eventLinks s.template (some doc) <;> rfl

/-- **The order of the links** of a calendar page is that of the searches. They are in document
order just when no search finds a link that comes after one of a later search, as with one search
alone, or with downward selectors and roots in order and apart. -/
theorem eventLinks_order (s : Session) (doc : Document) :
    (s.setDocument doc).eventLinks.1 =
        (s.template.page .calendar).map (fun page => (foundLinks doc page).map FoundLink.text) ∧
      ∀ page,
        (InDocumentOrder doc (foundLinks doc page) ↔ (linkSearches doc page).Pairwise
          fun search later => ∀ link ∈ linksOf doc search, ∀ other ∈ linksOf doc later,
            ¬ link.ComesAfter doc other) ∧
        ((linkSearches doc page).length ≤ 1 → InDocumentOrder doc (foundLinks doc page)) ∧
        ((∀ search ∈ linkSearches doc page, Fragment.downward.has search.2 = true) →
          ((linkSearches doc page).Pairwise fun search later =>
            Item.Precedes doc (.node search.1) (.node later.1) ∧
              ¬ doc.Within search.1 later.1) →
          InDocumentOrder doc (foundLinks doc page)) := by
  refine ⟨answer_eventLinks s doc, fun page => ⟨inDocumentOrder_foundLinks_iff, ?_, ?_⟩⟩
  · intro hone
    rw [inDocumentOrder_foundLinks_iff]
    match hsearches : linkSearches doc page, hone with
    | [], _ => exact .nil
    | [search], _ => exact List.pairwise_singleton _ _
  · intro hdown hroots
    rw [inDocumentOrder_foundLinks_iff]
    refine hroots.imp_of_mem fun hsearch hlater h => ?_
    exact not_comesAfter_of_apart (hdown _ hsearch) (hdown _ hlater) h.1 h.2

/-- A calendar page with a link in each item of a list. -/
def listPage : PageRule where
  roots := { selectors := ["li"] }
  fields := .ofList [(eventLinkKey, { selection := { selectors := ["a/@href"] } })]

/-- A list of two items with a link each. -/
def listDocument : Document :=
  .ofMarkup [.element "li" [] [.element "a" [⟨"href", "/1"⟩] []],
    .element "li" [] [.element "a" [⟨"href", "/2"⟩] []]]

theorem eventLinks_order_list :
    (foundLinks listDocument listPage).map FoundLink.text = ["/1", "/2"] ∧
      InDocumentOrder listDocument (foundLinks listDocument listPage) := by
  have hsearches : linkSearches listDocument listPage =
      [(1, .path false [⟨.child, .name "a", []⟩, ⟨.attributes, .name "href", []⟩]),
        (3, .path false [⟨.child, .name "a", []⟩, ⟨.attributes, .name "href", []⟩])] := by cbv
  have hordered := ((eventLinks_order { template := { name := "t", calendar := some listPage } }
    listDocument).2 listPage).2.2
  have hparts : Item.Precedes listDocument (.node 1) (.node 3) ∧ ¬ listDocument.Within 1 3 := by
    refine ⟨Item.Before.precedes (.inl (by decide)) ?_, fun h => ?_⟩
    · exact show 3 < listDocument.size by decide
    · exact absurd (Document.within_iff.mp h) (by decide)
  rw [hsearches] at hordered
  refine ⟨by cbv, hordered ?_ ?_⟩
  · intro search hsearch
    rcases List.mem_pair.mp hsearch with rfl | rfl <;> rfl
  · exact List.pairwise_pair.mpr hparts

/-- A calendar page that is searched for links with two selectors. -/
def mixedPage : PageRule where
  roots := { selectors := ["/"] }
  fields := .ofList [(eventLinkKey, { selection := { selectors := ["b/@href", "a/@href"] } })]

/-- A page with a link for the second selector before one for the first. -/
def mixedDocument : Document :=
  .ofMarkup [.element "a" [⟨"href", "/1"⟩] [], .element "b" [⟨"href", "/2"⟩] []]

/-- One root that is searched with two selectors: the link of the first selector is answered
first, though the link of the second comes before it. -/
theorem eventLinks_out_of_order :
    (setDocument { template := { name := "t", calendar := some mixedPage } }
        mixedDocument).eventLinks.1 = .ok ["/2", "/1"] ∧
      foundLinks mixedDocument mixedPage =
        [⟨some (.attr 2 0), "/2"⟩, ⟨some (.attr 1 0), "/1"⟩] ∧
      ¬ InDocumentOrder mixedDocument (foundLinks mixedDocument mixedPage) := by
  have hfound : foundLinks mixedDocument mixedPage =
      [⟨some (.attr 2 0), "/2"⟩, ⟨some (.attr 1 0), "/1"⟩] := by cbv
  have hprecedes : Item.Precedes mixedDocument (.attr 1 0) (.attr 2 0) :=
    Item.Before.precedes (.inl (by decide)) ⟨by decide, by decide⟩
  refine ⟨?_, hfound, fun hordered => ?_⟩
  · rw [answer_eventLinks]
    change Except.ok ((foundLinks mixedDocument mixedPage).map FoundLink.text) = _
    rw [hfound]
    rfl
  · rw [hfound] at hordered
    exact List.pairwise_pair.mp hordered ⟨_, _, rfl, rfl, hprecedes⟩

end Session

end Almanac
