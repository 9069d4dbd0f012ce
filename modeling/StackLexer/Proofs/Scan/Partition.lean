import StackLexer.Scan.Segment
import StackLexer.Proofs.Text.Cut

namespace StackLexer.Segment

variable {α : Type}

-- The segments lie end to end from the first offset to the last one.
def Tiles (text : Text) : Nat → List (Segment α) → Nat → Prop
  | start, [], stop => start = stop
  | start, segment :: rest, stop =>
      segment.span.start = start ∧ start < segment.span.stop ∧
        text.isBoundary segment.span.stop = true ∧ Tiles text segment.span.stop rest stop

theorem Tiles.append {text : Text} {start middle stop : Nat} {first second : List (Segment α)}
    (hfirst : Tiles text start first middle) (hsecond : Tiles text middle second stop) :
    Tiles text start (first ++ second) stop := by
  induction first generalizing start with
  | nil =>
      obtain rfl := hfirst
      exact hsecond
  | cons segment first ih =>
      obtain ⟨hstart, hlt, hboundary, hrest⟩ := hfirst
      exact ⟨hstart, hlt, hboundary, ih hrest⟩

theorem gap_tiles {text : Text} {start stop : Nat} (hle : start ≤ stop)
    (hstop : text.isBoundary stop = true) :
    Tiles text start (gap start stop : List (Segment α)) stop := by
  unfold gap
  split
  · exact ⟨rfl, by assumption, hstop, rfl⟩
  · exact Nat.le_antisymm hle (by omega)

theorem partitionFrom_tiles {text : Text} {stop : Nat} (hstop : text.isBoundary stop = true)
    (cursor : Nat) (hle : cursor ≤ stop) (pieces : List (α × Span)) :
    Tiles text cursor (partitionFrom text stop cursor pieces) stop := by
  induction pieces generalizing cursor with
  | nil => exact gap_tiles hle hstop
  | cons piece pieces ih =>
      obtain ⟨value, span⟩ := piece
      simp only [partitionFrom]
      split
      case isTrue h =>
        obtain ⟨hlt, hfirst, hlast⟩ := h
        apply Tiles.append (gap_tiles (Nat.le_max_right _ _) hfirst)
        exact ⟨rfl, hlt, hlast, ih _ (Nat.min_le_right _ _)⟩
      case isFalse => exact ih cursor hle

-- Whatever the pieces claim, the segments of a span leave nothing of it out.
theorem partition_tiles {text : Text} {span : Span} (hle : span.start ≤ span.stop)
    (hstop : text.isBoundary span.stop = true) (pieces : List (α × Span)) :
    Tiles text span.start (partition text span pieces) span.stop :=
  partitionFrom_tiles hstop span.start hle pieces

-- A segment that is claimed is claimed by a piece, and lies inside of its span.
theorem mem_partitionFrom {text : Text} {stop cursor : Nat} {pieces : List (α × Span)} {value : α}
    {span : Span} (h : .claimed value span ∈ partitionFrom text stop cursor pieces) :
    ∃ claim, (value, claim) ∈ pieces ∧ claim.start ≤ span.start ∧ span.stop ≤ claim.stop := by
  have hgap : ∀ start stop : Nat, Segment.claimed value span ∉ gap start stop := by
    intro start stop
    unfold gap
    split <;> simp
  induction pieces generalizing cursor with
  | nil => exact absurd h (hgap _ _)
  | cons piece pieces ih =>
      have hrest : ∀ {cursor}, .claimed value span ∈ partitionFrom text stop cursor pieces →
          ∃ claim, (value, claim) ∈ piece :: pieces ∧ claim.start ≤ span.start ∧
            span.stop ≤ claim.stop := by
        intro cursor h
        obtain ⟨claim, hmem, hinside⟩ := ih h
        exact ⟨claim, List.mem_cons_of_mem _ hmem, hinside⟩
      obtain ⟨other, claim⟩ := piece
      simp only [partitionFrom] at h
      split at h
      · rcases List.mem_append.mp h with h | h
        · exact absurd h (hgap _ _)
        · rcases List.mem_cons.mp h with h | h
          · obtain ⟨rfl, rfl⟩ := Segment.claimed.inj h
            exact ⟨claim, List.mem_cons_self, Nat.le_max_left _ _, Nat.min_le_left _ _⟩
          · exact hrest h
      · exact hrest h

end StackLexer.Segment
