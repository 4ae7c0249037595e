import Almanac.Document.Basic

/-!
# The tree in the table of a document

The table of a document lists its nodes in document order. The children of a
node tile the interval of the nodes inside it (`tiles_children`): each child
begins where the child before it ends. All else about the tree follows from this
tiling and from the pointers of a child to its parent (`parent?_eq_some_iff`):
a node lies inside another when its number is in the other's interval
(`within_iff`), and of two nodes of which neither lies inside the other, one
stands in an earlier sibling's subtree (`exists_siblings`).
-/

namespace Almanac

/-! ## Pieces at their numbers -/

theorem Markup.size_eq (piece : Markup) : piece.size = 1 + forestSize piece.content := by
  cases piece <;> rfl

theorem Markup.forestSize_append : ∀ pieces rest : List Markup,
    forestSize (pieces ++ rest) = forestSize pieces + forestSize rest
  | [], _ => (Nat.zero_add _).symm
  | piece :: pieces, rest => by
    rw [List.cons_append, forestSize, forestSize, forestSize_append pieces rest, Nat.add_assoc]

namespace Entry

theorem numbers_append : ∀ (start : Nat) (pieces rest : List Markup),
    numbers start (pieces ++ rest) =
      numbers start pieces ++ numbers (start + Markup.forestSize pieces) rest
  | _, [], _ => rfl
  | start, piece :: pieces, rest => by
    rw [List.cons_append, numbers, numbers, numbers_append, Markup.forestSize, Nat.add_assoc,
      List.cons_append]

theorem length_numbers : ∀ (start : Nat) (pieces : List Markup),
    (numbers start pieces).length = pieces.length
  | _, [] => rfl
  | start, piece :: rest => congrArg (· + 1) (length_numbers (start + piece.size) rest)

mutual

/-- A piece has as many entries as nodes. -/
theorem length_ofMarkup (parent start : Nat) :
    ∀ piece : Markup, (ofMarkup parent start piece).length = piece.size
  | .element tag attributes content => by
    simp only [ofMarkup, Markup.size, List.length_cons, length_ofForest start (start + 1) content]
    omega
  | .text _ | .comment _ | .doctype _ => rfl

theorem length_ofForest (parent start : Nat) :
    ∀ pieces : List Markup, (ofForest parent start pieces).length = Markup.forestSize pieces
  | [] => rfl
  | piece :: rest => by
    simp only [ofForest, Markup.forestSize, List.length_append, length_ofMarkup parent start piece,
      length_ofForest parent (start + piece.size) rest]

end

end Entry

namespace Document

mutual

/-- A piece has the number `start` and lies right inside `parent`. -/
def HasPiece (doc : Document) (parent start : Nat) : Markup → Prop
  | .element tag attributes content =>
    doc.entry? start = some
      { label := .element tag attributes
        parent := some parent
        children := Entry.numbers (start + 1) content
        last := start + Markup.forestSize content } ∧ doc.HasPieces start (start + 1) content
  | .text content => doc.entry? start = some ⟨.text content, some parent, [], start⟩
  | .comment content => doc.entry? start = some ⟨.comment content, some parent, [], start⟩
  | .doctype name => doc.entry? start = some ⟨.doctype name, some parent, [], start⟩

/-- Pieces lie right inside `parent`, one after the other from the number `start` on. -/
def HasPieces (doc : Document) (parent start : Nat) : List Markup → Prop
  | [] => True
  | piece :: rest =>
    doc.HasPiece parent start piece ∧ doc.HasPieces parent (start + piece.size) rest

end

mutual

theorem hasPiece_of_drop {doc : Document} {parent start : Nat} :
    ∀ {piece : Markup} (after : List Entry),
      doc.entries.toList.drop start = Entry.ofMarkup parent start piece ++ after →
        doc.HasPiece parent start piece
  | .element tag attributes content, after, h => by
    rw [Entry.ofMarkup, List.cons_append] at h
    refine ⟨?_, hasPieces_of_drop after ?_⟩
    · rw [ entry?, ← Array.getElem?_toList, ← List.head?_drop, h, List.head?_cons]
    · rw [← List.tail_drop, h, List.tail_cons]
  | .text _, _, h | .comment _, _, h | .doctype _, _, h => by
    simp only [HasPiece]
    rw [ entry?, ← Array.getElem?_toList, ← List.head?_drop, h, Entry.ofMarkup, List.cons_append,
      List.head?_cons]

theorem hasPieces_of_drop {doc : Document} {parent start : Nat} :
    ∀ {pieces : List Markup} (after : List Entry),
      doc.entries.toList.drop start = Entry.ofForest parent start pieces ++ after →
        doc.HasPieces parent start pieces
  | [], _, _ => trivial
  | piece :: rest, after, h => by
    rw [Entry.ofForest, List.append_assoc] at h
    refine ⟨hasPiece_of_drop _ h, hasPieces_of_drop after ?_⟩
    rw [← List.drop_drop, h, ← Entry.length_ofMarkup parent start piece, List.drop_left]

end

theorem hasPieces_append {doc : Document} {parent : Nat} : ∀ {start : Nat}
    {pieces rest : List Markup}, doc.HasPieces parent start (pieces ++ rest) ↔
      doc.HasPieces parent start pieces ∧
        doc.HasPieces parent (start + Markup.forestSize pieces) rest
  | _, [], _ => ⟨fun h => ⟨trivial, h⟩, fun h => h.2⟩
  | start, piece :: pieces, rest => by
    rw [List.cons_append, HasPieces, HasPieces, hasPieces_append, Markup.forestSize, and_assoc,
      Nat.add_assoc]

/-- The content of a document lies inside the root. -/
theorem hasPieces_content (doc : Document) : doc.HasPieces 0 1 doc.content := by
  refine hasPieces_of_drop [] ?_
  rw [doc.entries_eq, List.append_nil]
  rfl

theorem size_eq (doc : Document) : doc.size = 1 + Markup.forestSize doc.content := by
  rw [size, doc.entries_eq, List.size_toArray, Entry.table, List.length_cons,
    Entry.length_ofForest, Nat.add_comm]

theorem entry?_zero (doc : Document) : doc.entry? 0 = some
    ⟨.root, none, Entry.numbers 1 doc.content, Markup.forestSize doc.content⟩ := by
  rw [ entry?, doc.entries_eq]
  rfl

/-- The node `n` has the given content. -/
structure HasContent (doc : Document) (n : Nat) (content : List Markup) : Prop where
  children : doc.children n = Entry.numbers (n + 1) content
  last : doc.last n = n + Markup.forestSize content
  pieces : doc.HasPieces n (n + 1) content

theorem hasContent_zero (doc : Document) : doc.HasContent 0 doc.content := by
  refine ⟨?_, ?_, doc.hasPieces_content⟩
  · rw [children, entry?_zero]
    rfl
  · rw [last, entry?_zero, Nat.zero_add]
    rfl

theorem HasPiece.hasContent {doc : Document} {parent start : Nat} {piece : Markup}
    (h : doc.HasPiece parent start piece) : doc.HasContent start piece.content := by
  cases piece with
  | element tag attributes content =>
    obtain ⟨he, hp⟩ := h
    exact ⟨by rw [children, he]; rfl, by rw [last, he]; rfl, hp⟩
  | text _ | comment _ | doctype _ =>
    exact ⟨by rw [children, h]; rfl, by rw [last, h]; rfl, trivial⟩

theorem HasPiece.parent? {doc : Document} {parent start : Nat} {piece : Markup}
    (h : doc.HasPiece parent start piece) : doc.parent? start = some parent := by
  cases piece with
  | element tag attributes content => rw [Document.parent?, h.1]; rfl
  | text _ | comment _ | doctype _ => rw [Document.parent?, h]; rfl

/-- Each number of pieces is the node of one of them. -/
theorem HasPieces.of_mem_numbers {doc : Document} {parent c : Nat} :
    ∀ {pieces : List Markup} {start : Nat}, doc.HasPieces parent start pieces →
      c ∈ Entry.numbers start pieces → ∃ piece ∈ pieces, doc.HasPiece parent c piece
  | piece :: rest, _, ⟨hp, hr⟩, hc => by
    rcases List.mem_cons.mp hc with rfl | hc
    · exact ⟨piece, List.mem_cons_self, hp⟩
    · obtain ⟨inner, hin, hi⟩ := hr.of_mem_numbers hc
      exact ⟨inner, List.mem_cons_of_mem _ hin, hi⟩

theorem HasPiece.label? {doc : Document} {parent start : Nat} {piece : Markup}
    (h : doc.HasPiece parent start piece) : doc.label? start = some piece.label := by
  cases piece with
  | element tag attributes content => rw [Document.label?, h.1]; rfl
  | text _ | comment _ | doctype _ => rw [Document.label?, h]; rfl

/-! ## The piece of every node -/

section Pieces

variable {doc : Document} {n : Nat}

mutual

/-- A number in the interval of a piece is that of the piece, or of a piece inside it
at any depth. -/
theorem HasPiece.exists_at {parent start : Nat} :
    ∀ {piece : Markup}, doc.HasPiece parent start piece → start ≤ n → n < start + piece.size →
      n = start ∨ ∃ q inner, doc.HasPiece q n inner ∧ n ∈ doc.children q ∧
        n + inner.size ≤ start + piece.size
  | .element tag attributes content, h, hle, hlt => by
    rcases Nat.eq_or_lt_of_le hle with rfl | hlt'
    · exact .inl rfl
    · simp only [Markup.size] at hlt ⊢
      obtain ⟨q, inner, hin, hq, hend⟩ :=
        HasPieces.exists_at h.2 (Nat.succ_le_of_lt hlt') (by omega)
      refine .inr ⟨q, inner, hin, ?_, by omega⟩
      rcases hq with hq | ⟨rfl, hq⟩
      · exact hq
      · rw [h.hasContent.children]
        exact hq
  | .text _, _, hle, hlt | .comment _, _, hle, hlt | .doctype _, _, hle, hlt => by
    simp only [Markup.size] at hlt
    exact .inl (by omega)

/-- Each number among those of pieces is the node of one of them or of a piece inside. -/
theorem HasPieces.exists_at {parent start : Nat} :
    ∀ {pieces : List Markup}, doc.HasPieces parent start pieces → start ≤ n →
      n < start + Markup.forestSize pieces →
      ∃ q inner, doc.HasPiece q n inner ∧
        (n ∈ doc.children q ∨ q = parent ∧ n ∈ Entry.numbers start pieces) ∧
        n + inner.size ≤ start + Markup.forestSize pieces
  | [], _, hle, hlt => by
    simp only [Markup.forestSize] at hlt
    omega
  | piece :: rest, ⟨hp, hr⟩, hle, hlt => by
    simp only [Markup.forestSize] at hlt ⊢
    by_cases hin : n < start + piece.size
    · rcases hp.exists_at hle hin with rfl | ⟨q, inner, hq, hc, hend⟩
      · exact ⟨parent, piece, hp, .inr ⟨rfl, List.mem_cons_self⟩, by omega⟩
      · exact ⟨q, inner, hq, .inl hc, by omega⟩
    · obtain ⟨q, inner, hq, hc, hend⟩ := hr.exists_at (by omega) (by omega)
      refine ⟨q, inner, hq, ?_, by omega⟩
      exact hc.imp id fun ⟨hpar, hmem⟩ => ⟨hpar, List.mem_cons_of_mem _ hmem⟩

end

/-- Every node but the root is a piece among the children of its parent. -/
theorem exists_hasPiece (doc : Document) (h0 : 0 < n) (hn : n < doc.size) :
    ∃ q piece, doc.HasPiece q n piece ∧ n ∈ doc.children q ∧ n + piece.size ≤ doc.size := by
  rw [size_eq] at hn ⊢
  obtain ⟨q, piece, hp, hc, hend⟩ := doc.hasPieces_content.exists_at (n := n) (by omega) hn
  refine ⟨q, piece, hp, ?_, hend⟩
  rcases hc with hc | ⟨rfl, hc⟩
  · exact hc
  · rw [doc.hasContent_zero.children]
    exact hc

/-- Every node has some content, which ends in the document. -/
theorem exists_hasContent (doc : Document) (hn : n < doc.size) :
    ∃ content, doc.HasContent n content ∧ n + Markup.forestSize content < doc.size := by
  rcases Nat.eq_zero_or_pos n with rfl | h0
  · exact ⟨doc.content, doc.hasContent_zero, by rw [doc.size_eq]; omega⟩
  · obtain ⟨q, piece, hp, -, hend⟩ := doc.exists_hasPiece h0 hn
    rw [piece.size_eq] at hend
    exact ⟨piece.content, hp.hasContent, by omega⟩

theorem entry?_eq_none (doc : Document) (hn : ¬ n < doc.size) : doc.entry? n = none :=
  Array.getElem?_eq_none (Nat.le_of_not_lt hn)

end Pieces

/-! ## Children tile the inside of their parent -/

/-- The nodes follow one another without a gap, each with all that is inside it, from
the number `start` to before the number `stop`. -/
def Tiles (doc : Document) : Nat → List Nat → Nat → Prop
  | start, [], stop => start = stop
  | start, n :: rest, stop => n = start ∧ n ≤ doc.last n ∧ doc.Tiles (doc.last n + 1) rest stop

section Tiles

variable {doc : Document}

theorem HasPieces.tiles {parent : Nat} : ∀ {pieces : List Markup} {start : Nat},
    doc.HasPieces parent start pieces →
      doc.Tiles start (Entry.numbers start pieces) (start + Markup.forestSize pieces)
  | [], _, _ => rfl
  | piece :: rest, start, ⟨hp, hr⟩ => by
    have hl := hp.hasContent.last
    have hs := piece.size_eq
    refine ⟨rfl, by omega, ?_⟩
    have hnext : doc.last start + 1 = start + piece.size := by omega
    have hstop : start + Markup.forestSize (piece :: rest) =
        start + piece.size + Markup.forestSize rest := by
      rw [Markup.forestSize, Nat.add_assoc]
    rw [hnext, hstop]
    exact hr.tiles

theorem Tiles.le : ∀ {nodes : List Nat} {start stop : Nat}, doc.Tiles start nodes stop →
    start ≤ stop
  | [], _, _, h => Nat.le_of_eq h
  | n :: rest, start, stop, ⟨hn, hlast, h⟩ => by
    have := h.le
    omega

/-- The nodes of a tiling lie within its bounds, with all that is inside them. -/
theorem Tiles.bounds : ∀ {nodes : List Nat} {start stop : Nat}, doc.Tiles start nodes stop →
    ∀ c ∈ nodes, start ≤ c ∧ c ≤ doc.last c ∧ doc.last c < stop
  | n :: rest, start, stop, ⟨hn, hlast, h⟩, c, hc => by
    have hle := h.le
    rcases List.mem_cons.mp hc with rfl | hc
    · omega
    · have := h.bounds c hc
      omega

/-- Of two nodes in a tiling the first ends before the second begins. -/
theorem Tiles.pairwise : ∀ {nodes : List Nat} {start stop : Nat}, doc.Tiles start nodes stop →
    nodes.Pairwise fun c d => doc.last c < d
  | [], _, _, _ => .nil
  | _ :: _, _, _, ⟨_, _, h⟩ =>
    .cons (fun d hd => (h.bounds d hd).1) h.pairwise

/-- Every number in the interval is in the interval of some node of the tiling. -/
theorem Tiles.exists_mem {d : Nat} : ∀ {nodes : List Nat} {start stop : Nat},
    doc.Tiles start nodes stop → start ≤ d → d < stop → ∃ c ∈ nodes, c ≤ d ∧ d ≤ doc.last c
  | [], start, stop, h, hs, hd => by
    have : start = stop := h
    omega
  | n :: rest, start, stop, ⟨hn, hlast, h⟩, hs, hd => by
    by_cases hin : d ≤ doc.last n
    · exact ⟨n, List.mem_cons_self, by omega, hin⟩
    · obtain ⟨c, hc, hcd⟩ := h.exists_mem (by omega) hd
      exact ⟨c, List.mem_cons_of_mem _ hc, hcd⟩

end Tiles

section Children

variable (doc : Document) {n c : Nat}

theorem last_lt_size (hn : n < doc.size) : doc.last n < doc.size := by
  obtain ⟨content, hc, hend⟩ := doc.exists_hasContent hn
  rw [hc.last]
  exact hend

/-- **The children of a node** tile the interval of the nodes inside it. -/
theorem tiles_children (n : Nat) : doc.Tiles (n + 1) (doc.children n) (doc.last n + 1) := by
  by_cases hn : n < doc.size
  · obtain ⟨content, hc, -⟩ := doc.exists_hasContent hn
    rw [hc.children, hc.last, Nat.add_right_comm]
    exact hc.pieces.tiles
  · rw [children, last, doc.entry?_eq_none hn]
    rfl

theorem le_last (n : Nat) : n ≤ doc.last n := Nat.le_of_succ_le_succ (doc.tiles_children n).le

theorem lt_size_of_mem_children (hc : c ∈ doc.children n) : n < doc.size := by
  refine Decidable.by_contra fun hn => ?_
  rw [children, doc.entry?_eq_none hn] at hc
  exact List.not_mem_nil hc

/-- A child comes after its parent, and with all that is inside it before the end of the parent. -/
theorem bounds_of_mem_children (hc : c ∈ doc.children n) :
    n < c ∧ c ≤ doc.last c ∧ doc.last c ≤ doc.last n := by
  have hb := (doc.tiles_children n).bounds c hc
  omega

theorem child_lt_size (hc : c ∈ doc.children n) : c < doc.size := by
  have hb := doc.bounds_of_mem_children hc
  have := doc.last_lt_size (doc.lt_size_of_mem_children hc)
  omega

/-- The parent of a node is the node that it is a child of. -/
theorem parent?_eq_some_iff : doc.parent? c = some n ↔ c ∈ doc.children n := by
  constructor
  · intro h
    have hc : c < doc.size := by
      refine Decidable.by_contra fun hc => ?_
      rw [parent?, doc.entry?_eq_none hc] at h
      cases h
    have h0 : 0 < c := by
      refine Nat.pos_of_ne_zero fun h0 => ?_
      rw [h0, parent?, entry?_zero] at h
      cases h
    obtain ⟨q, piece, hp, hq, -⟩ := doc.exists_hasPiece h0 hc
    rw [hp.parent?, Option.some.injEq] at h
    exact h ▸ hq
  · intro h
    obtain ⟨content, hn, -⟩ := doc.exists_hasContent (doc.lt_size_of_mem_children h)
    rw [hn.children] at h
    obtain ⟨piece, -, hp⟩ := hn.pieces.of_mem_numbers h
    exact hp.parent?

/-- Of two children of a node the first ends before the second begins. -/
theorem pairwise_children (n : Nat) : (doc.children n).Pairwise fun c d => doc.last c < d :=
  (doc.tiles_children n).pairwise

/-- A node inside another is in the interval of a child of the other. -/
theorem exists_child {d : Nat} (h : n < d) (hd : d ≤ doc.last n) :
    ∃ c ∈ doc.children n, c ≤ d ∧ d ≤ doc.last c :=
  (doc.tiles_children n).exists_mem h (Nat.lt_succ_of_le hd)

/-! ## Inside and beside -/

/-- A node lies inside `outer` at some depth. -/
inductive Within (outer : Nat) : Nat → Prop
  | child {c : Nat} : c ∈ doc.children outer → Within outer c
  | deeper {m c : Nat} : Within outer m → c ∈ doc.children m → Within outer c

variable {doc} {a b : Nat}

/-- What lies inside a node lies between it and its last node. -/
theorem Within.bounds (h : doc.Within a b) : a < b ∧ doc.last b ≤ doc.last a := by
  induction h with
  | child hc =>
    have := doc.bounds_of_mem_children hc
    omega
  | deeper _ hc ih =>
    have := doc.bounds_of_mem_children hc
    omega

theorem Within.trans_child {c : Nat} (hc : c ∈ doc.children a) (h : doc.Within c b) :
    doc.Within a b := by
  induction h with
  | child hd => exact .deeper (.child hc) hd
  | deeper _ hd ih => exact .deeper ih hd

/-- **A node lies inside another** when its number is in the interval of the other. -/
theorem within_iff : doc.Within a b ↔ a < b ∧ b ≤ doc.last a := by
  constructor
  · intro h
    have hb := doc.le_last b
    have := h.bounds
    omega
  · -- down through the child that holds `b`, whose interval is the smaller
    induction hk : doc.last a - a using Nat.strongRecOn generalizing a with
    | _ k ih =>
      intro ⟨hab, hba⟩
      obtain ⟨c, hc, hcb, hbc⟩ := doc.exists_child hab hba
      rcases Nat.eq_or_lt_of_le hcb with rfl | hlt
      · exact .child hc
      · have hb := doc.bounds_of_mem_children hc
        exact .trans_child hc (ih (doc.last c - c) (by omega) rfl ⟨hlt, hbc⟩)

/-- The descendants of a node are the nodes that lie inside it. -/
theorem mem_descendants_iff : b ∈ doc.descendants a ↔ doc.Within a b := by
  rw [within_iff, descendants, List.mem_range'_1]
  omega

theorem Within.lt_size (h : doc.Within a b) : b < doc.size := by
  cases h with
  | child hc | deeper _ hc => exact doc.child_lt_size hc

/-- The ancestors of a node are its parent and the ancestors of this. -/
theorem ancestors_eq_cons {p : Nat} (h : doc.parent? a = some p) :
    doc.ancestors a = p :: doc.ancestors p := by
  have := doc.bounds_of_mem_children (doc.parent?_eq_some_iff.mp h)
  rw [ancestors, h]
  exact if_pos this.1

/-- The ancestors of a node are the nodes that it lies inside. -/
theorem mem_ancestors_iff : a ∈ doc.ancestors b ↔ doc.Within a b := by
  constructor
  · fun_induction ancestors doc b with
    | case1 => intro h; cases h
    | case2 b p hp _ ih =>
      have hc := doc.parent?_eq_some_iff.mp hp
      intro h
      rcases List.mem_cons.mp h with rfl | h
      · exact .child hc
      · exact .deeper (ih h) hc
    | case3 => intro h; cases h
  · intro h
    induction h with
    | child hc =>
      rw [ancestors_eq_cons (doc.parent?_eq_some_iff.mpr hc)]
      exact List.mem_cons_self
    | deeper _ hc ih =>
      rw [ancestors_eq_cons (doc.parent?_eq_some_iff.mpr hc)]
      exact List.mem_cons_of_mem _ ih

theorem lt_size_of_mem_siblings (h : b ∈ doc.siblings a) : b < doc.size := by
  rw [siblings] at h
  split at h
  · cases h
  · exact doc.child_lt_size h

/-- A node is `top` or lies inside it. -/
def AtOrWithin (doc : Document) (top n : Nat) : Prop := n = top ∨ doc.Within top n

/-- A node and what is inside it are numbered one behind the other. -/
theorem atOrWithin_iff : doc.AtOrWithin a b ↔ a ≤ b ∧ b ≤ doc.last a := by
  have := doc.le_last a
  rw [AtOrWithin, within_iff]
  omega

/-- What a node lies in holds its parent or is its parent. -/
theorem Within.atOrWithin_parent {p : Nat} (h : doc.Within a b) (hb : b ∈ doc.children p) :
    doc.AtOrWithin a p := by
  rw [← mem_ancestors_iff, ancestors_eq_cons (doc.parent?_eq_some_iff.mpr hb)] at h
  rcases List.mem_cons.mp h with rfl | h
  · exact .inl rfl
  · exact .inr (mem_ancestors_iff.mp h)

theorem pair_sublist_or {l : List Nat} {c d : Nat} (hc : c ∈ l) (hd : d ∈ l) (hne : c ≠ d) :
    [c, d].Sublist l ∨ [d, c].Sublist l := by
  obtain ⟨before, after, rfl⟩ := List.append_of_mem hc
  rcases List.mem_append.mp hd with hd | hd
  · exact .inr ((List.singleton_sublist.mpr hd).append (List.singleton_sublist.mpr (by simp)))
  · have hd : d ∈ after := (List.mem_cons.mp hd).resolve_left (Ne.symm hne)
    refine .inl (.trans ?_ (List.sublist_append_right ..))
    exact (List.singleton_sublist.mpr hd).cons_cons c

/-- Of two nodes of which the second comes later and not inside the first, the first
is in the subtree of a child that stands before the child whose subtree the second
is in. -/
theorem exists_siblings (hab : a < b) (hb : b < doc.size) (hout : doc.last a < b) :
    ∃ p c d, [c, d].Sublist (doc.children p) ∧ doc.AtOrWithin c a ∧ doc.AtOrWithin d b := by
  have key : ∀ k p, doc.last p - p = k → p < a → b ≤ doc.last p →
      ∃ p c d, [c, d].Sublist (doc.children p) ∧ doc.AtOrWithin c a ∧ doc.AtOrWithin d b := by
    intro k
    induction k using Nat.strongRecOn with
    | _ k ih =>
      intro p hk hpa hbp
      obtain ⟨c, hc, hca, hac⟩ := doc.exists_child hpa (by omega)
      obtain ⟨d, hd, hdb, hbd⟩ := doc.exists_child (Nat.lt_trans hpa hab) hbp
      by_cases hcd : c = d
      · -- both in one child: `a` is not that child, as `b` is not inside `a`
        subst hcd
        have hne : c ≠ a := by
          rintro rfl
          omega
        have := doc.bounds_of_mem_children hc
        exact ih (doc.last c - c) (by omega) c rfl (by omega) hbd
      · refine ⟨p, c, d, ?_, atOrWithin_iff.mpr ⟨hca, hac⟩, atOrWithin_iff.mpr ⟨hdb, hbd⟩⟩
        rcases pair_sublist_or hc hd hcd with hs | hs
        · exact hs
        · have := List.pairwise_iff_forall_sublist.mp (doc.pairwise_children p) hs
          omega
  have h0 : a ≠ 0 := by
    rintro rfl
    have := doc.hasContent_zero.last
    have := doc.size_eq
    omega
  have hlast := doc.hasContent_zero.last
  have hsize := doc.size_eq
  exact key _ 0 rfl (by omega) (by omega)

end Children

end Document

end Almanac
