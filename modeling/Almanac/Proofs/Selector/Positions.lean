import Mathlib.Data.List.Permutation
import Almanac.Proofs.Selector.Axes
import Almanac.Proofs.Selector.Lexing

/-!
# Positions

A predicate that is a number keeps the item at this place, and one that is the size keeps the last
item. The places are those of the list that the predicate is given: for a step the items that it
leads to in the order of its axis, the nearest first where the axis goes up or back; for a filter
the items of its base in document order; behind other predicates what these have left
(`Counts`). Only then are the items put in document order. So a number behind a step counts along
the axis and one behind an expression in parentheses counts in the document
(`positions_count_along_axis`). Numbers are told apart as long as they are below `2 ^ 53`
(`Number.equal_ofNat_iff`): larger ones are rounded, but none to a number below this bound.
-/

namespace Almanac

/-! ## Whole numbers -/

namespace Number

theorem le_roundDiv (num den : Nat) : num / den ≤ roundDiv num den := by
  unfold roundDiv
  dsimp only
  split <;> omega

theorem le_roundAt {num : Nat} {exponent : Int} (h : 0 ≤ exponent) :
    num / 2 ^ exponent.toNat ≤ roundAt num 1 exponent := by
  have hzero : (-exponent).toNat = 0 := by omega
  have hround := le_roundDiv (num * Nat.pow 2 (-exponent).toNat) (1 * Nat.pow 2 exponent.toNat)
  rw [hzero, Nat.one_mul] at hround
  rw [roundAt, hzero, Nat.one_mul]
  exact (Nat.mul_one num).symm ▸ hround

/-- A whole number that is too large to be held as it is keeps its mantissa and exponent. -/
theorem hold_of_le {mantissa : Nat} {exponent : Int} (hexponent : 0 ≤ exponent)
    (h : 2 ^ 53 ≤ mantissa * 2 ^ exponent.toNat) :
    hold false mantissa exponent = finite false mantissa exponent := by
  have hzero : (-exponent).toNat = 0 := by omega
  have hwhole : whole? mantissa exponent = some (mantissa * 2 ^ exponent.toNat) := by
    simp [whole?, hzero, Nat.mod_one]
  have hlarge : ¬ mantissa * 2 ^ exponent.toNat < Nat.pow 2 precision := Nat.not_lt.mpr h
  rw [hold, hwhole, Option.filter_some, if_neg (by simpa using hlarge)]

/-- Rounding makes no large whole number smaller than the numbers that are held as they are. -/
theorem ofNat_of_le {n : Nat} (h : 2 ^ 53 ≤ n) : ofNat n = infinite false ∨
    ∃ mantissa exponent, ofNat n = finite false mantissa exponent ∧ 0 ≤ exponent ∧
      2 ^ 53 ≤ mantissa * 2 ^ exponent.toNat := by
  have hne : n ≠ 0 := by omega
  obtain ⟨q, hq⟩ : ∃ q, Nat.log2 n = 53 + q := Nat.exists_eq_add_of_le ((Nat.le_log2 hne).mpr h)
  have hlow :
      max ((Nat.log2 n : Int) - (Nat.log2 1 : Nat) - precision) leastExponent = (q : Int) := by
    have hone : Nat.log2 1 = 0 := by decide
    rw [hone, hq, precision, leastExponent]
    omega
  have hpow : 2 ^ 53 * 2 ^ q ≤ n := by
    rw [← Nat.pow_add, ← hq]
    exact Nat.log2_self_le hne
  -- cut at the last binary digit that is kept, the mantissa has a digit too many
  have hkept : ¬ roundAt n 1 q < Nat.pow 2 precision := by
    have hround : n / 2 ^ q ≤ roundAt n 1 q := le_roundAt (Int.natCast_nonneg q)
    have hdiv := (Nat.le_div_iff_mul_le (Nat.two_pow_pos q)).mpr hpow
    exact Nat.not_lt.mpr (Nat.le_trans hdiv hround)
  have hmantissa : 2 ^ 52 ≤ roundAt n 1 ((q : Int) + 1) := by
    have hcut : n / 2 ^ ((q : Int) + 1).toNat ≤ roundAt n 1 ((q : Int) + 1) :=
      le_roundAt (Int.natCast_nonneg (q + 1))
    have hround : n / 2 ^ (q + 1) ≤ roundAt n 1 ((q : Int) + 1) := hcut
    refine Nat.le_trans ((Nat.le_div_iff_mul_le (Nat.two_pow_pos _)).mpr ?_) hround
    rw [Nat.pow_succ 2 q]
    omega
  have hvalue : 2 ^ 53 ≤ roundAt n 1 ((q : Int) + 1) * 2 ^ ((q : Int) + 1).toNat := by
    have hpos := Nat.two_pow_pos q
    have htwo : 2 ^ ((q : Int) + 1).toNat = 2 ^ q * 2 := Nat.pow_succ 2 q
    rw [htwo]
    calc 2 ^ 53 = 2 ^ 52 * 2 := by decide
      _ ≤ roundAt n 1 ((q : Int) + 1) * (2 ^ q * 2) :=
        Nat.mul_le_mul hmantissa (Nat.le_mul_of_pos_left 2 hpos)
  rw [ofNat, ofQuotient, if_neg (by simpa [Nat.mod_one, precision] using h)]
  simp only [hlow, if_neg hkept]
  split
  · exact .inl rfl
  · exact .inr ⟨_, _, hold_of_le (by omega) hvalue, by omega, hvalue⟩

/-- A whole number below `2 ^ 53` has the value of no other whole number. -/
theorem equal_ofNat_iff {k : Nat} (hk : k < 2 ^ 53) (n : Nat) :
    (ofNat k).equal (ofNat n) = true ↔ k = n := by
  rw [ofNat_of_lt hk, equal, beq_iff_eq]
  by_cases hn : n < 2 ^ 53
  · rw [ofNat_of_lt hn, ← Int.ofNat_inj]
    simp [compare?, scaled]
  · have hne : k ≠ n := by omega
    rcases ofNat_of_le (Nat.le_of_not_lt hn) with hlarge | ⟨mantissa, exponent, hlarge, he, hvalue⟩
    · rw [hlarge]
      simpa [compare?] using hne
    · have hmin : min 0 exponent = 0 := Int.min_eq_left he
      have hdiffer : (k : Int) ≠ (mantissa : Int) * Nat.pow 2 exponent.toNat := by
        have hlt : k < mantissa * Nat.pow 2 exponent.toNat := Nat.lt_of_lt_of_le hk hvalue
        exact_mod_cast Nat.ne_of_lt hlt
      rw [hlarge]
      simpa [compare?, scaled, hmin, hne] using hdiffer

end Number

namespace Selector

/-! ## Predicates that count -/

/-- The numeral of a whole number. -/
def numeral (k : Nat) : Expr := .number (Number.ofNumeral (Number.digits k))

theorem filter_zipIdx_eq_getElem? {α : Type} : ∀ (items : List α) (n j : Nat),
    ((items.zipIdx n).filter fun x => x.2 = n + j).map (·.1) = items[j]?.toList
  | [], _, _ => rfl
  | a :: rest, n, 0 => by
    have hlater : ∀ x ∈ rest.zipIdx (n + 1), ¬ x.2 = n := fun x hx => by
      have := List.le_snd_of_mem_zipIdx hx
      omega
    simpa [List.zipIdx_cons, List.filter_cons] using hlater
  | a :: rest, n, j + 1 => by
    have ih := filter_zipIdx_eq_getElem? rest (n + 1) j
    have hne : ¬ n = n + (j + 1) := by omega
    rw [Nat.add_assoc, Nat.add_comm 1 j] at ih
    simpa [List.zipIdx_cons, List.filter_cons, hne] using ih

section Counting

variable (doc : Document)

theorem keepAll_single (p : Expr) (items : List Item) :
    keepAll doc [p] items = (items.zipIdx.filter fun (b, i) =>
      (evaluate doc p ⟨b, i + 1, items.length⟩).keeps (i + 1)).map (·.1) := by
  rw [keepAll, keepAll]

/-- A predicate that holds at one place alone keeps the item there. -/
theorem keepAll_at {p : Expr} {items : List Item} {j : Nat}
    (h : ∀ b i, i < items.length →
      ((evaluate doc p ⟨b, i + 1, items.length⟩).keeps (i + 1) = true ↔ i = j)) :
    keepAll doc [p] items = items[j]?.toList := by
  rw [keepAll_single, ← filter_zipIdx_eq_getElem? items 0 j]
  refine congrArg (List.map Prod.fst) (List.filter_congr fun x hx => ?_)
  rw [Bool.eq_iff_iff, h x.1 x.2 (List.snd_lt_of_mem_zipIdx hx), decide_eq_true_eq, Nat.zero_add]

theorem keepAll_numeral {k : Nat} (h1 : 1 ≤ k) (hk : k < 2 ^ 53) (items : List Item) :
    keepAll doc [numeral k] items = items[k - 1]?.toList := by
  refine keepAll_at doc fun b i _ => ?_
  have hvalue : evaluate doc (numeral k) ⟨b, i + 1, items.length⟩ = .number (Number.ofNat k) := by
    rw [numeral, evaluate, Number.ofNumeral_digits hk, Number.ofNat_of_lt hk]
  rw [hvalue, Value.keeps, Number.equal_ofNat_iff hk]
  omega

theorem keepAll_last {items : List Item} (h : items.length < 2 ^ 53) :
    keepAll doc [.call .last []] items = items.getLast?.toList := by
  rw [List.getLast?_eq_getElem?]
  refine keepAll_at doc fun b i hi => ?_
  have hvalue : evaluate doc (.call .last []) ⟨b, i + 1, items.length⟩ =
      .number (Number.ofNat items.length) := by
    rw [evaluate]
    rfl
  rw [hvalue, Value.keeps, Number.equal_ofNat_iff h]
  omega

/-- What predicates in a row leave of a list of items: each predicate is counted in the list that
those before it have left, a numeral keeps the item at its place there, if there is one, and the
size keeps the last item. -/
structure Counts (items : List Item) (left : List Expr → List Item) : Prop where
  nil : left [] = items
  concat : ∀ predicates p, left (predicates ++ [p]) =
    ((left predicates).zipIdx.filter fun (b, i) =>
      (evaluate doc p ⟨b, i + 1, (left predicates).length⟩).keeps (i + 1)).map (·.1)
  numeral : ∀ predicates k, 1 ≤ k → k < 2 ^ 53 →
    left (predicates ++ [numeral k]) = (left predicates)[k - 1]?.toList
  last : ∀ predicates, (left predicates).length < 2 ^ 53 →
    left (predicates ++ [.call .last []]) = (left predicates).getLast?.toList

theorem counts_keepAll (items : List Item) :
    Counts doc items fun predicates => keepAll doc predicates items := by
  have hconcat : ∀ predicates p, keepAll doc (predicates ++ [p]) items =
      keepAll doc [p] (keepAll doc predicates items) := fun predicates p =>
    keepAll_append doc predicates [p] items
  refine ⟨by rw [keepAll], ?_, ?_, ?_⟩
  · intro predicates p
    rw [hconcat, keepAll_single]
  · intro predicates k h1 hk
    rw [hconcat, keepAll_numeral doc h1 hk]
  · intro predicates h
    rw [hconcat, keepAll_last doc h]

end Counting

/-! ## Steps and filters -/

section Values

variable {doc : Document} {a : Item} {axis : Axis} {test : NodeTest}

/-- What the predicates of a step leave of its candidates is put in document order, which turns
it around where the axis goes up or back. -/
theorem takeStepsFrom_single (predicates : List Expr) :
    takeStepsFrom doc [⟨axis, test, predicates⟩] [a] =
      if axis.isReverse then (keepAll doc predicates (a.candidates doc axis test)).reverse
      else keepAll doc predicates (a.candidates doc axis test) := by
  have hsub := keepAll_sublist doc predicates (a.candidates doc axis test)
  rw [takeStepsFrom, takeStepsFrom, List.flatMap_singleton]
  cases haxis : axis.isReverse with
  | false =>
    exact Item.inDocumentOrder_eq_self ((Item.pairwise_before_candidates a haxis).sublist hsub)
  | true =>
    refine Item.eq_of_pairwise_before (Item.pairwise_inDocumentOrder _) ?_ fun b => ?_
    · exact List.pairwise_reverse.mpr ((Item.pairwise_after_candidates a haxis).sublist hsub)
    · rw [if_pos rfl, Item.mem_inDocumentOrder, List.mem_reverse]

theorem ite_reverse_toList (p : Prop) [Decidable p] (item? : Option Item) :
    (if p then item?.toList.reverse else item?.toList) = item?.toList := by
  cases item? <;> exact ite_self _

theorem evaluate_filter_of_items {base : Expr} {focus : Focus} {items : List Item}
    (h : evaluate doc base focus = .items items) (predicates : List Expr) :
    evaluate doc (.filter base predicates []) focus = .items (keepAll doc predicates items) := by
  rw [evaluate, h]
  dsimp only
  rw [takeStepsFrom]

end Values

/-- **Positions count along the axis**: a step with a numeral gives the item at this place in the
order of its axis, and with the size the last; further predicates count in what is left. Behind an
expression that gives items the places are those in document order. -/
theorem positions_count_along_axis (doc : Document) {a : Item} (h : a.IsOf doc) (axis : Axis)
    (test : NodeTest) (position size : Nat) :
    let step (predicates : List Expr) : Expr := .path false [⟨axis, test, predicates⟩]
    let value (expr : Expr) : Value := evaluate doc expr ⟨a, position, size⟩
    (∃ items, (∀ other, Item.InProximityOrder doc axis test a other ↔ other = items) ∧
      (∀ k, 1 ≤ k → k < 2 ^ 53 → value (step [numeral k]) = .items items[k - 1]?.toList) ∧
      (items.length < 2 ^ 53 → value (step [.call .last []]) = .items items.getLast?.toList) ∧
      ∃ left, Counts doc items left ∧ ∀ predicates, value (step predicates) =
        .items (if axis.isReverse then (left predicates).reverse else left predicates)) ∧
    (∀ base items, value base = .items items →
      items.Pairwise (Item.Precedes doc) ∧
      (∀ k, 1 ≤ k → k < 2 ^ 53 →
        value (.filter base [numeral k] []) = .items items[k - 1]?.toList) ∧
      (items.length < 2 ^ 53 →
        value (.filter base [.call .last []] []) = .items items.getLast?.toList) ∧
      ∃ left, Counts doc items left ∧
        ∀ predicates, value (.filter base predicates []) = .items (left predicates)) ∧
    ∀ table b, doc.hasTag table "table" = true → test.isName "tr" = true →
      (Item.Matches doc .child test (.node table) b ↔
        ∃ row, b = .node row ∧ doc.hasTag row "tr" = true ∧
          (row ∈ doc.children table ∨ ∃ body ∈ doc.children table,
            doc.hasTag body "tbody" = true ∧ row ∈ doc.children body)) := by
  intro step value
  have hstep : ∀ predicates, value (step predicates) = .items (if axis.isReverse
      then (keepAll doc predicates (a.candidates doc axis test)).reverse
      else keepAll doc predicates (a.candidates doc axis test)) := fun predicates => by
    show evaluate doc (.path false [⟨axis, test, predicates⟩]) _ = _
    rw [evaluate, ← takeStepsFrom_single]
    rfl
  refine ⟨⟨a.candidates doc axis test, fun other => Item.inProximityOrder_iff h, ?_, ?_,
    _, counts_keepAll doc _, hstep⟩, ?_, fun table b => Item.matches_row_iff⟩
  · intro k h1 hk
    rw [hstep, keepAll_numeral doc h1 hk, ite_reverse_toList]
  · intro hlength
    rw [hstep, keepAll_last doc hlength, ite_reverse_toList]
  · intro base items hbase
    have hfocus : (⟨a, position, size⟩ : Focus).item.IsOf doc := h
    have hof := isOf_of_mem_evaluate base hfocus
    have hsorted := pairwise_evaluate doc base ⟨a, position, size⟩
    have hfilter : ∀ predicates, value (.filter base predicates []) =
        .items (keepAll doc predicates items) := evaluate_filter_of_items hbase
    have hvalue : (evaluate doc base ⟨a, position, size⟩).toItems = items :=
      congrArg Value.toItems hbase
    rw [hvalue] at hof hsorted
    refine ⟨hsorted.imp_of_mem fun _ hc hbc => hbc.precedes (hof _ hc), ?_, ?_,
      _, counts_keepAll doc items, hfilter⟩
    · intro k h1 hk
      rw [hfilter, keepAll_numeral doc h1 hk]
    · intro hlength
      rw [hfilter, keepAll_last doc hlength]

/-- The second row of a table, which stands in its body, and the nearest row before the last. -/
theorem positions_count_along_axis_row :
    let doc := Document.ofMarkup [.element "table" [] [.element "tr" [] [.text "a"],
      .element "tbody" [] [.element "tr" [] [.text "b"]], .element "tr" [] [.text "c"]]]
    let second : Expr := .path false [⟨.child, .name "tr", [numeral 2]⟩]
    let nearest : Expr := .path false [⟨.precedingSibling, .any, [numeral 1]⟩]
    (Item.node 1).IsOf doc ∧ (Item.node 7).IsOf doc ∧
      evaluate doc second ⟨.node 1, 1, 1⟩ = .items [.node 5] ∧
      evaluate doc nearest ⟨.node 7, 1, 1⟩ = .items [.node 4] := by
  intro doc second nearest
  have htable : (Item.node 1).IsOf doc := (by decide : 1 < doc.size)
  have hlast : (Item.node 7).IsOf doc := (by decide : 7 < doc.size)
  obtain ⟨rows, hrows, hsecond, -⟩ :=
    (positions_count_along_axis doc htable .child (.name "tr") 1 1).1
  obtain ⟨before, hbefore, hnearest, -⟩ :=
    (positions_count_along_axis doc hlast .precedingSibling .any 1 1).1
  have hr := (hrows _).mp (Item.candidates_inProximityOrder htable)
  have hb := (hbefore _).mp (Item.candidates_inProximityOrder hlast)
  refine ⟨htable, hlast, (hsecond 2 (by decide) (by decide)).trans ?_,
    (hnearest 1 (by decide) (by decide)).trans ?_⟩
  · rw [← hr]
    cbv
  · rw [← hb]
    cbv

end Selector

end Almanac
