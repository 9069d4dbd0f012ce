import Mathlib.Data.List.Chain
import Mathlib.Data.List.Forall2
import StackLexer.Proofs.Scan.Partition

namespace StackLexer.Segment

variable {α : Type} {text : Text} {start cursor stop : Nat} {segments : List (Segment α)}

-- The value that a segment is claimed for, with the span it gets.
def claim? : Segment α → Option (α × Span)
  | .claimed value span => some (value, span)
  | .unclaimed _ => none

def claims (segments : List (Segment α)) : List (α × Span) := segments.filterMap claim?

-- Of two neighbours one is claimed.
def Apart (segment next : Segment α) : Prop := segment.claim?.isSome ∨ next.claim?.isSome

-- The claim is one of the piece, and lies inside of it.
structure Within (claim piece : α × Span) : Prop where
  value : claim.1 = piece.1
  start : piece.2.start ≤ claim.2.start
  stop : claim.2.stop ≤ piece.2.stop

-- Every claim is that of a piece of its own, in the order of the pieces.
def Keeps (pieces claims : List (α × Span)) : Prop :=
  ∃ kept, kept.Sublist pieces ∧ List.Forall₂ Within claims kept

-- No segment is empty, they lie end to end, and no edge falls inside of a character. What is
-- unclaimed is one segment as long as nothing claimed comes between.
structure IsPartition (text : Text) (span : Span) (pieces : List (α × Span))
    (segments : List (Segment α)) : Prop where
  nonempty : ∀ segment ∈ segments, segment.span.start < segment.span.stop
  first : ∀ segment ∈ segments.head?, segment.span.start = span.start
  endToEnd : segments.IsChain fun segment next => segment.span.stop = next.span.start
  last : ∀ segment ∈ segments.getLast?, segment.span.stop = span.stop
  nil_iff : segments = [] ↔ span.isEmpty = true
  boundaries : ∀ segment ∈ segments, text.isBoundary segment.span.start = true ∧
    text.isBoundary segment.span.stop = true
  apart : segments.IsChain Apart
  keeps : Keeps pieces (claims segments)

namespace Keeps

variable {pieces kept : List (α × Span)}

theorem nil : Keeps pieces [] := ⟨[], List.nil_sublist _, .nil⟩

theorem cons {piece claim : α × Span} (hclaim : Within claim piece) (h : Keeps pieces kept) :
    Keeps (piece :: pieces) (claim :: kept) := by
  obtain ⟨own, hsublist, hown⟩ := h
  exact ⟨piece :: own, hsublist.cons_cons _, .cons hclaim hown⟩

theorem skip (piece : α × Span) (h : Keeps pieces kept) : Keeps (piece :: pieces) kept := by
  obtain ⟨own, hsublist, hown⟩ := h
  exact ⟨own, hsublist.cons _, hown⟩

end Keeps

namespace Tiles

theorem nonempty (h : Tiles text start segments stop) :
    ∀ segment ∈ segments, segment.span.start < segment.span.stop := by
  induction segments generalizing start with
  | nil => simp
  | cons segment segments ih =>
      obtain ⟨rfl, hlt, -, hrest⟩ := h
      exact List.forall_mem_cons.mpr ⟨hlt, ih hrest⟩

theorem head (h : Tiles text start segments stop) :
    ∀ segment ∈ segments.head?, segment.span.start = start := by
  cases segments with
  | nil => simp
  | cons segment segments => simpa using h.1

theorem endToEnd (h : Tiles text start segments stop) :
    segments.IsChain fun segment next => segment.span.stop = next.span.start := by
  induction segments generalizing start with
  | nil => exact .nil
  | cons segment segments ih =>
      obtain ⟨-, -, -, hrest⟩ := h
      exact List.isChain_cons.mpr ⟨fun next hnext => (hrest.head next hnext).symm, ih hrest⟩

theorem last (h : Tiles text start segments stop) :
    ∀ segment ∈ segments.getLast?, segment.span.stop = stop := by
  induction segments generalizing start with
  | nil => simp
  | cons segment segments ih =>
      obtain ⟨-, -, -, hrest⟩ := h
      cases segments with
      | nil => simpa [Tiles] using hrest
      | cons next segments => simpa using ih hrest

theorem le (h : Tiles text start segments stop) : start ≤ stop := by
  induction segments generalizing start with
  | nil => exact Nat.le_of_eq h
  | cons segment segments ih =>
      obtain ⟨-, hlt, -, hrest⟩ := h
      exact Nat.le_trans (Nat.le_of_lt hlt) (ih hrest)

theorem inside (hstart : text.isBoundary start = true) (h : Tiles text start segments stop) :
    ∀ segment ∈ segments, text.Inside ⟨start, stop⟩ segment.span := by
  induction segments generalizing start with
  | nil => simp
  | cons segment segments ih =>
      obtain ⟨rfl, hlt, hboundary, hrest⟩ := h
      refine List.forall_mem_cons.mpr ⟨⟨Nat.le_refl _, Nat.le_of_lt hlt, hrest.le, hstart,
        hboundary⟩, fun next hmem => ?_⟩
      have hnext := ih hboundary hrest next hmem
      exact ⟨Nat.le_trans (Nat.le_of_lt hlt) hnext.start, hnext.le, hnext.stop, hnext.boundaries⟩

theorem nil_iff (h : Tiles text start segments stop) : segments = [] ↔ start = stop := by
  cases segments with
  | nil => simpa [Tiles] using h
  | cons segment segments =>
      obtain ⟨-, hlt, -, hrest⟩ := h
      have hle := le hrest
      simp only [List.cons_ne_nil, false_iff]
      omega

end Tiles

theorem claims_gap (start stop : Nat) : claims (gap start stop : List (Segment α)) = [] := by
  unfold gap
  split <;> rfl

-- A gap in front of a claimed segment claims nothing.
theorem claims_cut (start stop : Nat) (value : α) (span : Span) (rest : List (Segment α)) :
    claims (gap start stop ++ .claimed value span :: rest) = (value, span) :: claims rest := by
  have hgap : (gap start stop : List (Segment α)).filterMap claim? = [] := claims_gap start stop
  rw [claims, List.filterMap_append, hgap]
  rfl

-- What is left of a piece lies inside of it.
theorem within_cut (value : α) (span : Span) (cursor stop : Nat) :
    Within (value, ⟨max span.start cursor, min span.stop stop⟩) (value, span) :=
  ⟨rfl, Nat.le_max_left _ _, Nat.min_le_left _ _⟩

-- A claimed segment may have any neighbours.
theorem isChain_claimed {first rest : List (Segment α)} (value : α) (span : Span)
    (hfirst : first.length ≤ 1) (hrest : rest.IsChain Apart) :
    (first ++ .claimed value span :: rest).IsChain Apart := by
  have hclaimed : (.claimed value span :: rest : List (Segment α)).IsChain Apart :=
    List.isChain_cons.mpr ⟨fun _ _ => .inl rfl, hrest⟩
  match first with
  | [] => exact hclaimed
  | [segment] => exact List.isChain_cons_cons.mpr ⟨.inr rfl, hclaimed⟩

theorem length_gap_le (start stop : Nat) : (gap start stop : List (Segment α)).length ≤ 1 := by
  unfold gap
  split <;> simp

section Partition

variable (text stop)

theorem partitionFrom_apart (cursor : Nat) (pieces : List (α × Span)) :
    (partitionFrom text stop cursor pieces).IsChain Apart := by
  induction pieces generalizing cursor with
  | nil =>
      unfold partitionFrom gap
      split <;> simp
  | cons piece pieces ih =>
      obtain ⟨value, span⟩ := piece
      rw [partitionFrom]
      split
      · exact isChain_claimed _ _ (length_gap_le _ _) (ih _)
      · exact ih cursor

theorem partitionFrom_keeps (cursor : Nat) (pieces : List (α × Span)) :
    Keeps pieces (claims (partitionFrom text stop cursor pieces)) := by
  induction pieces generalizing cursor with
  | nil =>
      rw [partitionFrom, claims_gap]
      exact .nil
  | cons piece pieces ih =>
      obtain ⟨value, span⟩ := piece
      simp only [partitionFrom]
      split
      · rw [claims_cut]
        exact (ih _).cons (within_cut value span cursor stop)
      · exact (ih cursor).skip _

end Partition

-- Nothing is left of a span that is empty.
theorem partition_empty {span : Span} (hempty : span.stop ≤ span.start) (pieces : List (α × Span)) :
    partition text span pieces = [] := by
  unfold partition
  induction pieces with
  | nil => exact if_neg (by omega)
  | cons piece pieces ih =>
      obtain ⟨value, own⟩ := piece
      rw [partitionFrom, if_neg (by omega)]
      exact ih

-- Whatever the pieces are, cutting makes a partition of the span.
theorem partition_isPartition (text : Text) (span : Span)
    (hstart : text.isBoundary span.start = true) (hstop : text.isBoundary span.stop = true)
    (pieces : List (α × Span)) : IsPartition text span pieces (partition text span pieces) := by
  have hapart := partitionFrom_apart text span.stop span.start pieces
  have hkeeps := partitionFrom_keeps text span.stop span.start pieces
  rcases Nat.le_or_ge span.stop span.start with hempty | hle
  · have hnil : partition text span pieces = [] := partition_empty hempty pieces
    have hspan : span.isEmpty = true := decide_eq_true hempty
    constructor
    case apart => exact hapart
    case keeps => exact hkeeps
    all_goals simp [hnil, hspan]
  · have htiles := partition_tiles hle hstop pieces
    have hspan : span.start = span.stop ↔ span.isEmpty = true := by
      rw [Span.isEmpty, decide_eq_true_iff]
      omega
    exact ⟨htiles.nonempty, htiles.head, htiles.endToEnd, htiles.last, htiles.nil_iff.trans hspan,
      fun segment hmem => (htiles.inside hstart segment hmem).boundaries, hapart, hkeeps⟩

-- A piece that begins inside of a character, one that reaches over the end, and one that ends
-- before it begins.
theorem accents_isPartition :
    Text.isBoundary "aéb".toList 0 = true ∧ Text.isBoundary "aéb".toList 4 = true ∧
      IsPartition "aéb".toList ⟨0, 4⟩ [('x', ⟨2, 4⟩), ('y', ⟨1, 9⟩), ('z', ⟨3, 1⟩)]
        (partition "aéb".toList ⟨0, 4⟩ [('x', ⟨2, 4⟩), ('y', ⟨1, 9⟩), ('z', ⟨3, 1⟩)]) :=
  ⟨by decide, by decide, partition_isPartition _ _ (by decide) (by decide) _⟩

end StackLexer.Segment
