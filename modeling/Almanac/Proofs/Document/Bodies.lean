import Almanac.Proofs.Document.Tree
import Mathlib.Data.List.Forall2

/-!
# Tables with and without a body

A page may leave out the body of a table, which its reading then puts in around the
rows. A marked page is a page in which some tables have such a stretch of content
marked; it is read without the bodies (`bareAll`) and with them (`fullAll`). The nodes
of the bare page are those of the full page without the bodies, in order (`keptAll`).
What is around two such nodes differs only by bodies (`Local`): the children
correspond, but for those of a marked table, where a body stands in for the stretch,
and what is inside corresponds when the bodies are left out.
-/

namespace Almanac

open Almanac.Text

/-! ## Tags -/

namespace Document

variable {doc : Document} {n : Nat} {a b : String}

theorem hasTag_of_label? {tag : String} {attributes : List Attribute}
    (h : doc.label? n = some (.element tag attributes)) (name : String) :
    doc.hasTag n name = equalLatin name tag := by
  rw [hasTag, tag?, h]
  rfl

theorem hasTag_congr (h : equalLatin a b = true) (n : Nat) : doc.hasTag n a = doc.hasTag n b := by
  rw [equalLatin, beq_iff_eq] at h
  rw [hasTag, hasTag]
  congr 1
  funext tag
  rw [equalLatin, equalLatin, h]

/-- A node has one tag. -/
theorem hasTag_eq_false (h : doc.hasTag n a = true) (hab : equalLatin a b = false) :
    doc.hasTag n b = false := by
  rw [hasTag, Option.any_eq_true] at h
  obtain ⟨tag, htag, h⟩ := h
  rw [equalLatin, beq_iff_eq] at h
  rw [equalLatin, h] at hab
  rw [hasTag, htag, Option.any_some, equalLatin, ← hab, Bool.eq_iff_iff, beq_iff_eq,
    beq_iff_eq, eq_comm]

end Document

/-! ## Marked pages -/

/-- A piece of a page in which some tables have a stretch of their content marked. -/
inductive Marked where
  | element (tag : String) (attributes : List Attribute) (content : List Marked)
  | table (tag : String) (attributes : List Attribute) (before rows after : List Marked)
  | text (content : String)
  | comment (content : String)
  | doctype (name : String)

namespace Marked

mutual

/-- The piece without the marks. -/
def bare : Marked → Markup
  | element tag attributes content => .element tag attributes (bareAll content)
  | table tag attributes before rows after =>
    .element tag attributes (bareAll before ++ (bareAll rows ++ bareAll after))
  | text content => .text content
  | comment content => .comment content
  | doctype name => .doctype name

/-- The pieces without the marks. -/
def bareAll : List Marked → List Markup
  | [] => []
  | piece :: rest => bare piece :: bareAll rest

end

mutual

/-- The piece with a body around every marked stretch. -/
def full : Marked → Markup
  | element tag attributes content => .element tag attributes (fullAll content)
  | table tag attributes before rows after =>
    .element tag attributes (fullAll before ++ (.element "tbody" [] (fullAll rows) :: fullAll after))
  | text content => .text content
  | comment content => .comment content
  | doctype name => .doctype name

/-- The pieces with a body around every marked stretch. -/
def fullAll : List Marked → List Markup
  | [] => []
  | piece :: rest => full piece :: fullAll rest

end

/-- Whether a piece is an element with a tag, up to the case of Latin letters. -/
def hasTag (tag : String) : Marked → Bool
  | element own _ _ | table own _ _ _ _ => equalLatin tag own
  | text _ | comment _ | doctype _ => false

/-- Whether a piece may be in a marked stretch: a row, a text or a comment. -/
def isRowOrBlank : Marked → Bool
  | text _ | comment _ => true
  | piece => piece.hasTag "tr"

mutual

/-- Whether the marked elements are tables without a body and every mark is on all rows
of its table and only texts and comments beside them. -/
def isProper : Marked → Bool
  | element _ _ content => areProper content
  | table tag _ before rows after =>
    equalLatin "table" tag &&
      (before ++ after).all (fun piece => !piece.hasTag "tbody" && !piece.hasTag "tr") &&
      rows.all isRowOrBlank && areProper before && areProper rows && areProper after
  | text _ | comment _ | doctype _ => true

/-- Whether all marks in the pieces are proper. -/
def areProper : List Marked → Bool
  | [] => true
  | piece :: rest => isProper piece && areProper rest

end

mutual

/-- The numbers that the nodes inside the bare piece have in the full page, where the
piece has the number `start`. -/
def inside (start : Nat) : Marked → List Nat
  | element _ _ content => keptAll (start + 1) content
  | table _ _ before rows after =>
    let body := start + 1 + Markup.forestSize (fullAll before)
    keptAll (start + 1) before ++ (keptAll (body + 1) rows ++
      keptAll (body + (1 + Markup.forestSize (fullAll rows))) after)
  | text _ | comment _ | doctype _ => []

/-- The numbers that the nodes of the bare pieces have in the full page, where the first
piece has the number `start`. -/
def keptAll (start : Nat) : List Marked → List Nat
  | [] => []
  | piece :: rest => start :: inside start piece ++ keptAll (start + (full piece).size) rest

end

/-- The node of the full page that a node of the bare page is. -/
def counterpart? (page : List Marked) (n : Nat) : Option Nat := (0 :: keptAll 1 page)[n]?

/-! ## The kept nodes -/

mutual

/-- The bare piece has as many nodes inside it as numbers in the full page. -/
theorem length_inside (start : Nat) : ∀ piece : Marked,
    (inside start piece).length = Markup.forestSize (bare piece).content
  | element _ _ content => length_keptAll (start + 1) content
  | table _ _ before rows after => by
    simp only [inside, List.length_append, bare, Markup.content, Markup.forestSize_append,
      length_keptAll _ before, length_keptAll _ rows, length_keptAll _ after]
  | text _ | comment _ | doctype _ => rfl

theorem length_keptAll (start : Nat) : ∀ pieces : List Marked,
    (keptAll start pieces).length = Markup.forestSize (bareAll pieces)
  | [] => rfl
  | piece :: rest => by
    rw [keptAll, List.length_append, List.length_cons, length_inside, length_keptAll, bareAll,
      Markup.forestSize, Markup.size_eq, Nat.add_comm 1]

end

theorem length_cons_inside (start : Nat) (piece : Marked) :
    (start :: inside start piece).length = (bare piece).size := by
  rw [List.length_cons, length_inside, Markup.size_eq, Nat.add_comm]

theorem mem_bareAll {m : Markup} : ∀ {pieces : List Marked}, m ∈ bareAll pieces →
    ∃ piece ∈ pieces, m = bare piece
  | piece :: rest, h => by
    rw [bareAll] at h
    rcases List.mem_cons.mp h with rfl | h
    · exact ⟨piece, List.mem_cons_self, rfl⟩
    · obtain ⟨other, hmem, rfl⟩ := mem_bareAll h
      exact ⟨other, List.mem_cons_of_mem _ hmem, rfl⟩

/-- A list is another with some members left out that have a property. -/
inductive Thinned (P : Nat → Prop) : List Nat → List Nat → Prop
  | nil : Thinned P [] []
  | keep {k : Nat} {part whole : List Nat} : Thinned P part whole →
      Thinned P (k :: part) (k :: whole)
  | leave {k : Nat} {part whole : List Nat} : P k → Thinned P part whole →
      Thinned P part (k :: whole)

namespace Thinned

variable {P : Nat → Prop} {part whole : List Nat}

theorem append {part' whole' : List Nat} (h : Thinned P part whole)
    (h' : Thinned P part' whole') : Thinned P (part ++ part') (whole ++ whole') := by
  induction h with
  | nil => exact h'
  | keep _ ih => exact .keep ih
  | leave hk _ ih => exact .leave hk ih

theorem sublist (h : Thinned P part whole) : part.Sublist whole := by
  induction h with
  | nil => exact .slnil
  | keep _ ih => exact ih.cons_cons _
  | leave _ _ ih => exact ih.cons _

theorem mem_or {k : Nat} (h : Thinned P part whole) (hk : k ∈ whole) : k ∈ part ∨ P k := by
  induction h with
  | nil => cases hk
  | keep _ ih =>
    rcases List.mem_cons.mp hk with rfl | hk
    · exact .inl List.mem_cons_self
    · exact (ih hk).imp (List.mem_cons_of_mem _) id
  | leave hp _ ih =>
    rcases List.mem_cons.mp hk with rfl | hk
    · exact .inr hp
    · exact ih hk

/-- What picks nothing from the members left out picks the same from both lists. -/
theorem filterMap_eq {α : Type} {f : Nat → Option α} (hf : ∀ k, P k → f k = none)
    (h : Thinned P part whole) : whole.filterMap f = part.filterMap f := by
  induction h with
  | nil => rfl
  | keep _ ih => rw [List.filterMap_cons, List.filterMap_cons, ih]
  | leave hk _ ih => rw [List.filterMap_cons, hf _ hk, ih]

/-- A filter that drops what has the property does not see what is left out. -/
theorem filter_eq {p : Nat → Bool} (hp : ∀ k, P k → p k = false) (h : Thinned P part whole) :
    whole.filter p = part.filter p := by
  rw [← List.filterMap_eq_filter]
  exact h.filterMap_eq fun k hk => by rw [Option.guard, hp k hk]; rfl

end Thinned

/-- The numbers from `start` on correspond to the members of a list one by one. -/
def Lined (R : Nat → Nat → Prop) : Nat → List Nat → Prop
  | _, [] => True
  | start, k :: rest => R start k ∧ Lined R (start + 1) rest

section Lined

variable {R : Nat → Nat → Prop}

theorem lined_append : ∀ {start : Nat} {nodes rest : List Nat},
    Lined R start (nodes ++ rest) ↔ Lined R start nodes ∧ Lined R (start + nodes.length) rest
  | _, [], _ => ⟨fun h => ⟨trivial, h⟩, fun h => h.2⟩
  | start, k :: nodes, rest => by
    rw [List.cons_append, Lined, Lined, lined_append, List.length_cons, and_assoc,
      Nat.add_right_comm, Nat.add_assoc]

/-- The numbers from the start on correspond to the members of a list that is lined up. -/
theorem Lined.forall₂ : ∀ {nodes : List Nat} {start : Nat}, Lined R start nodes →
    List.Forall₂ R (List.range' start nodes.length) nodes
  | [], _, _ => .nil
  | _ :: _, _, h => .cons h.1 h.2.forall₂

theorem lined_of_getElem? : ∀ {nodes : List Nat} {start : Nat},
    (∀ i k, nodes[i]? = some k → R (start + i) k) → Lined R start nodes
  | [], _, _ => trivial
  | k :: rest, start, h =>
    ⟨h 0 k rfl, lined_of_getElem? fun i j hj => by
      rw [Nat.add_right_comm, Nat.add_assoc]
      exact h (i + 1) j hj⟩

theorem Lined.getElem? : ∀ {nodes : List Nat} {start i k : Nat}, Lined R start nodes →
    nodes[i]? = some k → R (start + i) k
  | _ :: _, _, 0, _, h, rfl => h.1
  | _ :: rest, start, i + 1, k, h, hk => by
    have := h.2.getElem? hk
    rwa [Nat.add_right_comm, Nat.add_assoc] at this

end Lined

/-! ## What is around corresponding nodes -/

section Around

variable (doc doc' : Document) (rel : Nat → Nat → Prop)

/-- A table without a body and a table in which the body `t` is around the rows: before
and after the rows the children correspond, and the rows correspond to the children of
the body. -/
structure TableTwin (n n' t : Nat) : Prop where
  isTable : doc.hasTag n "table" = true
  body : doc'.label? t = some (.element "tbody" [])
  children : ∃ before rows after before' after',
    doc.children n = before ++ (rows ++ after) ∧ doc'.children n' = before' ++ t :: after' ∧
    List.Forall₂ rel before before' ∧ List.Forall₂ rel rows (doc'.children t) ∧
    List.Forall₂ rel after after' ∧
    (∀ c ∈ before ++ after, doc.hasTag c "tbody" = false ∧ doc.hasTag c "tr" = false) ∧
    ∀ c ∈ rows, doc.hasTag c "tr" = true ∨ doc.tag? c = none

/-- A node of the full page is a body that the bare page leaves out. -/
def IsBody (t : Nat) : Prop := ∃ n n', rel n n' ∧ TableTwin doc doc' rel n n' t

/-- What is around corresponding nodes differs only by bodies. -/
structure Local (n n' : Nat) : Prop where
  label : doc.label? n = doc'.label? n'
  children : List.Forall₂ rel (doc.children n) (doc'.children n') ∨
    ∃ t, TableTwin doc doc' rel n n' t
  inside : ∃ part, List.Forall₂ rel (doc.descendants n) part ∧
    Thinned (IsBody doc doc' rel) part (doc'.descendants n')

variable {doc doc' rel}

theorem TableTwin.mem {n n' t : Nat} (h : TableTwin doc doc' rel n n' t) :
    t ∈ doc'.children n' := by
  obtain ⟨_, _, _, _, _, -, hchildren', -⟩ := h.children
  rw [hchildren']
  exact List.mem_append_right _ List.mem_cons_self

/-- The numbers of pieces in the bare page correspond to those in the full page. -/
theorem forall₂_numbers : ∀ {pieces : List Marked} {start start' : Nat},
    Lined rel start (keptAll start' pieces) →
      List.Forall₂ rel (Entry.numbers start (bareAll pieces))
        (Entry.numbers start' (fullAll pieces))
  | [], _, _, _ => .nil
  | piece :: rest, start, start', h => by
    rw [keptAll, lined_append, length_cons_inside] at h
    exact .cons h.1.1 (forall₂_numbers h.2)

theorem hasTag_of_hasPiece {parent n : Nat} {piece : Marked}
    (h : doc.HasPiece parent n (bare piece)) (tag : String) :
    doc.hasTag n tag = piece.hasTag tag := by
  rw [Document.hasTag, Document.tag?, h.label?]
  cases piece <;> rfl

/-- What is in a marked stretch is a row or no element. -/
theorem row_or_blank_of_hasPiece {parent n : Nat} {piece : Marked}
    (h : doc.HasPiece parent n (bare piece)) (hrow : piece.isRowOrBlank = true) :
    doc.hasTag n "tr" = true ∨ doc.tag? n = none := by
  rw [hasTag_of_hasPiece h, Document.tag?, h.label?]
  cases piece with
  | text _ | comment _ => exact .inr rfl
  | element _ _ _ | table _ _ _ _ _ | doctype _ => exact .inl hrow

/-- What holds of all nodes that are one of the pieces holds of their numbers. -/
theorem forall_numbers {parent start : Nat} {pieces : List Marked} {P : Nat → Prop}
    (h : doc.HasPieces parent start (bareAll pieces))
    (hP : ∀ piece ∈ pieces, ∀ n, doc.HasPiece parent n (bare piece) → P n) :
    ∀ c ∈ Entry.numbers start (bareAll pieces), P c := by
  intro c hc
  obtain ⟨m, hm, hpiece⟩ := h.of_mem_numbers hc
  obtain ⟨piece, hmem, rfl⟩ := mem_bareAll hm
  exact hP piece hmem c hpiece

/-- A marked table differs from that with a body by the body alone. -/
theorem tableTwin_of_hasPiece {parent parent' n n' : Nat} {tag : String}
    {attributes : List Attribute} {before rows after : List Marked}
    (h : doc.HasPiece parent n (bare (table tag attributes before rows after)))
    (h' : doc'.HasPiece parent' n' (full (table tag attributes before rows after)))
    (hproper : (table tag attributes before rows after).isProper = true)
    (hlined : Lined rel (n + 1) (inside n' (table tag attributes before rows after))) :
    TableTwin doc doc' rel n n' (n' + 1 + Markup.forestSize (fullAll before)) := by
  have hchildren := h.hasContent.children
  have hchildren' := h'.hasContent.children
  simp only [bare, full, Markup.content, Entry.numbers_append, Entry.numbers] at hchildren hchildren'
  obtain ⟨hbefore, hrest⟩ := Document.hasPieces_append.mp h.2
  obtain ⟨hrows, hafter⟩ := Document.hasPieces_append.mp hrest
  obtain ⟨-, hbody, -⟩ := Document.hasPieces_append.mp h'.2
  obtain ⟨hl₁, hl⟩ := lined_append.mp hlined
  obtain ⟨hl₂, hl₃⟩ := lined_append.mp hl
  rw [length_keptAll] at hl₂ hl₃
  rw [length_keptAll] at hl₃
  simp only [isProper, Bool.and_eq_true, List.all_eq_true, Bool.not_eq_true'] at hproper
  obtain ⟨⟨⟨⟨⟨htable, hno⟩, hrow⟩, -⟩, -⟩, -⟩ := hproper
  refine ⟨?_, hbody.label?, _, _, _, _, _, hchildren, hchildren', forall₂_numbers hl₁, ?_,
    forall₂_numbers hl₃, ?_, ?_⟩
  · rw [hasTag_of_hasPiece h]
    exact htable
  · rw [hbody.hasContent.children]
    exact forall₂_numbers hl₂
  · have hside : ∀ piece ∈ before ++ after, ∀ c, doc.HasPiece n c (bare piece) →
        doc.hasTag c "tbody" = false ∧ doc.hasTag c "tr" = false := by
      intro piece hmem c hc
      rw [hasTag_of_hasPiece hc, hasTag_of_hasPiece hc]
      exact hno piece hmem
    intro c hc
    rcases List.mem_append.mp hc with hc | hc
    · exact forall_numbers hbefore (fun p hp => hside p (List.mem_append_left _ hp)) c hc
    · exact forall_numbers hafter (fun p hp => hside p (List.mem_append_right _ hp)) c hc
  · exact forall_numbers hrows fun piece hmem c hc => row_or_blank_of_hasPiece hc (hrow piece hmem)

theorem range'_one_add (start length : Nat) :
    List.range' start (1 + length) = start :: List.range' (start + 1) length := by
  rw [Nat.add_comm, List.range'_succ]

mutual

/-- The kept nodes inside a piece are all nodes inside it but the bodies. -/
theorem thinned_inside {parent parent' start start' : Nat} : ∀ {piece : Marked},
    doc.HasPiece parent start (bare piece) → doc'.HasPiece parent' start' (full piece) →
    piece.isProper = true → rel start start' → Lined rel (start + 1) (inside start' piece) →
    Thinned (IsBody doc doc' rel) (inside start' piece)
      (List.range' (start' + 1) (Markup.forestSize (full piece).content))
  | .element _ _ content, h, h', hproper, _, hlined => thinned_keptAll h.2 h'.2 hproper hlined
  | .table tag attributes before rows after, h, h', hproper, hrel, hlined => by
    have htwin := tableTwin_of_hasPiece h h' hproper hlined
    obtain ⟨hbefore, hrest⟩ := Document.hasPieces_append.mp h.2
    obtain ⟨hrows, hafter⟩ := Document.hasPieces_append.mp hrest
    obtain ⟨hbefore', hbody, hafter'⟩ := Document.hasPieces_append.mp h'.2
    obtain ⟨hl₁, hl⟩ := lined_append.mp hlined
    obtain ⟨hl₂, hl₃⟩ := lined_append.mp hl
    rw [length_keptAll] at hl₂ hl₃
    rw [length_keptAll] at hl₃
    simp only [isProper, Bool.and_eq_true] at hproper
    obtain ⟨⟨⟨-, hp₁⟩, hp₂⟩, hp₃⟩ := hproper
    rw [full, Markup.content, Markup.forestSize_append, ← List.range'_append_1]
    refine .append (thinned_keptAll hbefore hbefore' hp₁ hl₁) ?_
    rw [Markup.forestSize, Markup.size, Nat.add_assoc 1, range'_one_add, ← List.range'_append_1]
    -- of the stretch with its body around it only the body is left out
    refine .leave ⟨start, start', hrel, htwin⟩ ?_
    refine .append (thinned_keptAll hrows hbody.2 hp₂ hl₂) ?_
    rw [Nat.add_assoc (start' + 1 + _) 1]
    exact thinned_keptAll hafter hafter' hp₃ hl₃
  | .text _, _, _, _, _, _ | .comment _, _, _, _, _, _ | .doctype _, _, _, _, _, _ => .nil

/-- The bare pieces keep all numbers of the full ones but those of bodies. -/
theorem thinned_keptAll {parent parent' : Nat} : ∀ {pieces : List Marked} {start start' : Nat},
    doc.HasPieces parent start (bareAll pieces) →
    doc'.HasPieces parent' start' (fullAll pieces) →
    areProper pieces = true → Lined rel start (keptAll start' pieces) →
    Thinned (IsBody doc doc' rel) (keptAll start' pieces)
      (List.range' start' (Markup.forestSize (fullAll pieces)))
  | [], _, _, _, _, _, _ => .nil
  | piece :: rest, start, start', h, h', hproper, hlined => by
    rw [keptAll, lined_append, length_cons_inside] at hlined
    rw [areProper, Bool.and_eq_true] at hproper
    rw [keptAll, fullAll, Markup.forestSize, ← List.range'_append_1, Markup.size_eq,
      range'_one_add]
    refine .append (.keep (thinned_inside h.1 h'.1 hproper.1 hlined.1.1 hlined.1.2)) ?_
    have := thinned_keptAll h.2 h'.2 hproper.2 hlined.2
    rwa [Markup.size_eq] at this

end

/-- The descendants of a node are numbered one behind the other. -/
theorem descendants_of_hasContent {n : Nat} {content : List Markup}
    (h : doc.HasContent n content) :
    doc.descendants n = List.range' (n + 1) (Markup.forestSize content) := by
  rw [Document.descendants, h.last, Nat.add_sub_cancel_left]

/-- What is around the node of a piece is as in the full page, but for bodies. -/
theorem local_of_hasPiece {parent parent' n n' : Nat} {piece : Marked}
    (h : doc.HasPiece parent n (bare piece)) (h' : doc'.HasPiece parent' n' (full piece))
    (hproper : piece.isProper = true) (hrel : rel n n')
    (hlined : Lined rel (n + 1) (inside n' piece)) : Local doc doc' rel n n' := by
  have hlabel : (bare piece).label = (full piece).label := by cases piece <;> rfl
  refine ⟨?_, ?_, inside n' piece, ?_, ?_⟩
  · rw [h.label?, h'.label?, hlabel]
  · have hchildren := h.hasContent.children
    have hchildren' := h'.hasContent.children
    cases piece with
    | element _ _ content =>
      left
      rw [hchildren, hchildren']
      exact forall₂_numbers hlined
    | table _ _ _ _ _ => exact .inr ⟨_, tableTwin_of_hasPiece h h' hproper hlined⟩
    | text _ | comment _ | doctype _ =>
      left
      rw [hchildren, hchildren']
      exact .nil
  · rw [descendants_of_hasContent h.hasContent, ← length_inside n' piece]
    exact hlined.forall₂
  · rw [descendants_of_hasContent h'.hasContent]
    exact thinned_inside h h' hproper hrel hlined

mutual

theorem local_inside {parent parent' start start' : Nat} : ∀ {piece : Marked},
    doc.HasPiece parent start (bare piece) → doc'.HasPiece parent' start' (full piece) →
    piece.isProper = true → Lined rel (start + 1) (inside start' piece) →
    Lined (Local doc doc' rel) (start + 1) (inside start' piece)
  | .element _ _ content, h, h', hproper, hlined => local_keptAll h.2 h'.2 hproper hlined
  | .table tag attributes before rows after, h, h', hproper, hlined => by
    obtain ⟨hbefore, hrest⟩ := Document.hasPieces_append.mp h.2
    obtain ⟨hrows, hafter⟩ := Document.hasPieces_append.mp hrest
    obtain ⟨hbefore', hbody, hafter'⟩ := Document.hasPieces_append.mp h'.2
    obtain ⟨hl₁, hl⟩ := lined_append.mp hlined
    obtain ⟨hl₂, hl₃⟩ := lined_append.mp hl
    simp only [isProper, Bool.and_eq_true] at hproper
    obtain ⟨⟨⟨-, hp₁⟩, hp₂⟩, hp₃⟩ := hproper
    refine lined_append.mpr ⟨local_keptAll hbefore hbefore' hp₁ hl₁, lined_append.mpr ⟨?_, ?_⟩⟩
    · rw [length_keptAll] at hl₂ ⊢
      exact local_keptAll hrows hbody.2 hp₂ hl₂
    · rw [length_keptAll, length_keptAll] at hl₃ ⊢
      exact local_keptAll hafter hafter' hp₃ hl₃
  | .text _, _, _, _, _ | .comment _, _, _, _, _ | .doctype _, _, _, _, _ => trivial

/-- What is around the nodes of the bare pieces differs only by bodies from what is around
their counterparts. -/
theorem local_keptAll {parent parent' : Nat} : ∀ {pieces : List Marked} {start start' : Nat},
    doc.HasPieces parent start (bareAll pieces) →
    doc'.HasPieces parent' start' (fullAll pieces) →
    areProper pieces = true → Lined rel start (keptAll start' pieces) →
    Lined (Local doc doc' rel) start (keptAll start' pieces)
  | [], _, _, _, _, _, _ => trivial
  | piece :: rest, start, start', h, h', hproper, hlined => by
    rw [keptAll, lined_append, length_cons_inside] at hlined ⊢
    rw [areProper, Bool.and_eq_true] at hproper
    obtain ⟨⟨hrel, hin⟩, hrest⟩ := hlined
    refine ⟨⟨local_of_hasPiece h.1 h'.1 hproper.1 hrel hin, ?_⟩, ?_⟩
    · exact local_inside h.1 h'.1 hproper.1 hin
    · exact local_keptAll h.2 h'.2 hproper.2 hrest

end

end Around

/-! ## Counterparts -/

section Counterpart

variable {page : List Marked} {n n' : Nat}

theorem lined_counterpart (page : List Marked) :
    Lined (fun n n' => counterpart? page n = some n') 1 (keptAll 1 page) := by
  refine lined_of_getElem? fun i k hk => ?_
  rw [counterpart?, Nat.add_comm, List.getElem?_cons_succ]
  exact hk

/-- Every node of the bare page has its counterpart. -/
theorem exists_counterpart (h : n < (Document.ofMarkup (bareAll page)).size) :
    ∃ n', counterpart? page n = some n' := by
  have hlen : n < (0 :: keptAll 1 page).length := by
    rw [List.length_cons, length_keptAll, Nat.add_comm]
    rw [Document.size_eq] at h
    exact h
  exact ⟨_, List.getElem?_eq_getElem hlen⟩

variable (hpage : areProper page = true)
include hpage

theorem thinned_page :
    Thinned (IsBody (.ofMarkup (bareAll page)) (.ofMarkup (fullAll page))
      fun n n' => counterpart? page n = some n') (keptAll 1 page)
      (List.range' 1 (Markup.forestSize (fullAll page))) :=
  thinned_keptAll (Document.hasPieces_content _) (Document.hasPieces_content _) hpage
    (lined_counterpart page)

/-- Counterparts have the order of the nodes whose counterparts they are. -/
theorem counterpart_lt_iff {m m' : Nat} (hn : counterpart? page n = some n')
    (hm : counterpart? page m = some m') : n < m ↔ n' < m' := by
  have hsorted : (0 :: keptAll 1 page).Pairwise (· < ·) := by
    have hrange := (List.Sublist.cons_cons 0 (thinned_page hpage).sublist)
    rw [← range'_one_add] at hrange
    exact (List.pairwise_lt_range' ..).sublist hrange
  obtain ⟨hn', rfl⟩ := List.getElem?_eq_some_iff.mp hn
  obtain ⟨hm', rfl⟩ := List.getElem?_eq_some_iff.mp hm
  rw [List.pairwise_iff_getElem] at hsorted
  have h₁ := hsorted n m hn' hm'
  have h₂ := hsorted m n hm' hn'
  rcases Nat.lt_trichotomy n m with h | rfl | h <;> omega

/-- What is around a node and around its counterpart differs only by bodies. -/
theorem local_of_counterpart (hn : counterpart? page n = some n') :
    Local (.ofMarkup (bareAll page)) (.ofMarkup (fullAll page))
      (fun n n' => counterpart? page n = some n') n n' := by
  have hlined := lined_counterpart page
  have h := Document.hasPieces_content (.ofMarkup (bareAll page))
  have h' := Document.hasPieces_content (.ofMarkup (fullAll page))
  have h₀ := Document.hasContent_zero (.ofMarkup (bareAll page))
  have h₀' := Document.hasContent_zero (.ofMarkup (fullAll page))
  cases n with
  | zero =>
    obtain rfl : 0 = n' := Option.some.inj hn
    refine ⟨?_, .inl ?_, keptAll 1 page, ?_, ?_⟩
    · rw [Document.label?, Document.label?, Document.entry?_zero, Document.entry?_zero]
      rfl
    · rw [h₀.children, h₀'.children]
      exact forall₂_numbers hlined
    · rw [descendants_of_hasContent h₀]
      exact length_keptAll 1 page ▸ hlined.forall₂
    · rw [descendants_of_hasContent h₀']
      exact thinned_page hpage
  | succ n =>
    rw [Nat.add_comm]
    rw [counterpart?, List.getElem?_cons_succ] at hn
    exact (local_keptAll h h' hpage hlined).getElem? hn

end Counterpart

end Marked

end Almanac
