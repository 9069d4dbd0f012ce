import StackLexer.Scan.Step

namespace StackLexer

-- A scan and the pieces of its last step that are still to come.
structure Level where
  scan : Scan
  pending : List Piece
deriving DecidableEq, Repr

-- The scans that are under way, each with what it has made and not yet handed out. Asking for a
-- token hands out a piece that is there, or makes the innermost scan take steps until there is one;
-- nothing is scanned ahead of need. `waiting` are the levels around the active one, the nearest
-- first.
structure Stream where
  active : Level
  waiting : List Level
deriving DecidableEq, Repr

namespace Stream

def ofScan (scan : Scan) : Stream := ⟨⟨scan, []⟩, []⟩

def outer (stream : Stream) : Scan := (stream.waiting.getLastD stream.active).scan

variable {m : Type → Type} [Monad m]

-- Steps and moves between levels that can come before a token. From where the stream stands every
-- level can end once, and on the way down every level can make one start, one step that makes
-- pieces, and as many that make none as the options allow.
def patience (options : Options) : Nat :=
  (options.maxDelegationDepth + 2) * (options.maxEmptySteps + 5)

def nextWithin (set : TableSet) (host : Host m) :
    (fuel : Nat) → Stream → ExceptT Fault m (Option Token × Stream)
  | 0, _ => throw .stalled
  | fuel + 1, ⟨⟨scan, pending⟩, waiting⟩ =>
      match pending with
      | .token token :: rest => return (some token, ⟨⟨scan, rest⟩, waiting⟩)
      | .nested inner :: rest => nextWithin set host fuel ⟨⟨inner, []⟩, ⟨scan, rest⟩ :: waiting⟩
      | [] =>
          if scan.isDone then
            match waiting with
            | [] => return (none, ⟨⟨scan, []⟩, []⟩)
            | level :: levels => nextWithin set host fuel ⟨level, levels⟩
          else do
            let (scan, pieces) ← scan.step set host
            nextWithin set host fuel ⟨⟨scan, pieces⟩, waiting⟩

def next (set : TableSet) (host : Host m) (stream : Stream) :
    ExceptT Fault m (Option Token × Stream) :=
  nextWithin set host (patience set.options) stream

-- At most `count` tokens, each with the stream as it was left, and the stream behind them.
def take (set : TableSet) (host : Host m) :
    (count : Nat) → Stream → ExceptT Fault m (List (Token × Stream) × Stream)
  | 0, stream => return ([], stream)
  | count + 1, stream => do
      match ← stream.next set host with
      | (none, stream) => return ([], stream)
      | (some token, stream) => do
          let (rest, final) ← stream.take set host count
          return ((token, stream) :: rest, final)

-- All tokens. There are no more of them than bytes, as none is empty.
def rest (set : TableSet) (host : Host m) (stream : Stream) :
    ExceptT Fault m (List (Token × Stream) × Stream) :=
  stream.take set host (stream.outer.input.size + 1)

end Stream

namespace TableSet

-- A host that looks every delegation up and keeps no record.
def plainHost (set : TableSet) : Host Id where
  resolve := fun current handle => set.lookup? current handle.delegation
  record := fun _ => ()

def open? (set : TableSet) (id : TableId) (text : Text) : Option Stream :=
  (set.table? id).map fun table => .ofScan (.start id table.root text)

def tokens (set : TableSet) (id : TableId) (text : Text) : Except Fault (List Token) :=
  match set.open? id text with
  | none => .error (.noTable id)
  | some stream => do
      let (pulls, _) ← (stream.rest set set.plainHost : ExceptT Fault Id _)
      return pulls.map (·.1)

end TableSet

end StackLexer
