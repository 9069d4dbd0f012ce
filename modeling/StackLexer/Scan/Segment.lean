import StackLexer.Text

namespace StackLexer

-- A part of a match. Groups and callbacks claim spans that may overlap, leave gaps or lie anywhere.
inductive Segment (α : Type) where
  | claimed (value : α) (span : Span)
  | unclaimed (span : Span)
deriving DecidableEq, Repr

namespace Segment

def span {α : Type} : Segment α → Span
  | .claimed _ span => span
  | .unclaimed span => span

-- The stretch between two offsets, if there is anything between them.
def gap {α : Type} (start stop : Nat) : List (Segment α) :=
  if start < stop then [.unclaimed ⟨start, stop⟩] else []

-- Segments from `cursor` to `stop`. A piece is cut to begin at the cursor and to end at `stop`; it
-- is dropped if nothing is left of it or if an edge falls inside of a character.
def partitionFrom {α : Type} (text : Text) (stop cursor : Nat) :
    List (α × Span) → List (Segment α)
  | [] => gap cursor stop
  | (value, span) :: rest =>
      let first := max span.start cursor
      let last := min span.stop stop
      if first < last ∧ text.isBoundary first ∧ text.isBoundary last then
        gap cursor first ++ .claimed value ⟨first, last⟩ :: partitionFrom text stop last rest
      else partitionFrom text stop cursor rest

-- Segments that cover the match from end to end. Every piece gets what of its span is still free,
-- and the rest stays unclaimed.
def partition {α : Type} (text : Text) (span : Span) (pieces : List (α × Span)) :
    List (Segment α) :=
  partitionFrom text span.stop span.start pieces

end Segment

end StackLexer
