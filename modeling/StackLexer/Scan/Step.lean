import StackLexer.Scan.Segment
import StackLexer.TableSet

namespace StackLexer

-- What a scan over broken tables could run into.
inductive Fault where
  | noTable (id : TableId)
  | noState (id : StateId)
  | badOffset (offset : Nat)
  | badSpan (span : Span)
  | stalled
deriving DecidableEq, Repr

-- One scan of one text. `base` is where the text starts in the outermost input, `cursor` the
-- first offset not yet scanned, and `depth` the number of scans around this one. `emptySteps`
-- counts the matches of no text in a row.
structure Scan where
  table : TableId
  input : Text
  base : Nat
  cursor : Nat
  stack : StateStack
  depth : Nat
  emptySteps : Nat
deriving DecidableEq, Repr

-- What a step hands out: a token, or a scan to be run in its place.
inductive Piece where
  | token (token : Token)
  | nested (scan : Scan)
deriving DecidableEq, Repr

inductive Event where
  | step (scan : Scan) (winner? : Option Rule)
  | call (context : MatchView)

-- What a scan asks of its surroundings, and tells them. So it can run with or without a memory of
-- earlier answers, and with or without a record of what happens.
structure Host (m : Type → Type) where
  resolve : TableId → Handle → m (Option Target)
  record : Event → m Unit

namespace Scan

-- A scan that has taken no step yet, with `state?` above the root state.
def fresh (table : TableId) (root : StateId) (state? : Option StateId) (input : Text)
    (base depth : Nat) : Scan where
  table := table
  input := input
  base := base
  cursor := 0
  stack := (state?.map (StateStack.new root).push).getD (.new root)
  depth := depth
  emptySteps := 0

def start (table : TableId) (root : StateId) (input : Text) : Scan :=
  fresh table root none input 0 0

def isDone (scan : Scan) : Bool := decide (scan.input.size ≤ scan.cursor)

def offset (scan : Scan) : Nat := scan.base + scan.cursor

variable {m : Type → Type} [Monad m]

def orFault {α : Type} (fault : Fault) : Option α → ExceptT Fault m α
  | some value => pure value
  | none => throw fault

def slice (scan : Scan) (span : Span) : ExceptT Fault m Text :=
  orFault (.badSpan span) (scan.input.slice? span)

def token (scan : Scan) (kind : Kind) (span : Span) : ExceptT Fault m Piece := do
  return .token ⟨kind, scan.base + span.start, ← scan.slice span⟩

-- One error for each character, the first of which starts at `start`.
def errorTokens (start : Nat) : Text → List Piece
  | [] => []
  | c :: rest => .token ⟨.error, start, [c]⟩ :: errorTokens (start + c.utf8Size) rest

def errors (scan : Scan) (span : Span) : ExceptT Fault m (List Piece) := do
  return errorTokens (scan.base + span.start) (← scan.slice span)

-- The character at the cursor as an error, and the scan behind it.
def skipChar (scan : Scan) : ExceptT Fault m (Scan × List Piece) := do
  let place ← orFault (.badOffset scan.cursor) (scan.input.place? scan.cursor)
  match place.after with
  | [] => return (scan, [])
  | c :: _ =>
      return ({ scan with cursor := scan.cursor + c.utf8Size }, errorTokens scan.offset [c])

-- A scan of the span in its own right. Spans too deep, and those without a target, become errors.
def delegate (set : TableSet) (host : Host m) (scan : Scan) (handle : Handle) (span : Span) :
    ExceptT Fault m (List Piece) := do
  if set.options.maxDelegationDepth ≤ scan.depth then scan.errors span
  else match ← host.resolve scan.table handle with
    | none => scan.errors span
    | some target => do
        let table ← orFault (.noTable target.table) (set.table? target.table)
        return [.nested (.fresh target.table table.root target.state? (← scan.slice span)
          (scan.base + span.start) (scan.depth + 1))]

-- The pieces of one segment of a match.
def segment (set : TableSet) (host : Host m) (scan : Scan) :
    Segment (Part Handle) → ExceptT Fault m (List Piece)
  | .claimed (.kind kind) span => do return [← scan.token kind span]
  | .claimed (.delegate handle) span => scan.delegate set host handle span
  | .unclaimed span => scan.errors span

def segments (set : TableSet) (host : Host m) (scan : Scan) :
    List (Segment (Part Handle)) → ExceptT Fault m (List Piece)
  | [] => return []
  | first :: rest => do
      return (← scan.segment set host first) ++ (← scan.segments set host rest)

-- Each part of a group action with the span of its group. Groups that took no part are left out.
def groupPieces (parts : List (Part Handle)) (groups : List (Option Span)) :
    List (Part Handle × Span) :=
  (parts.zip groups).filterMap fun (part, span?) => span?.map (part, ·)

-- What a match becomes. A match of no text becomes nothing.
def act (set : TableSet) (host : Host m) (scan : Scan) (state : State) (rule : Rule)
    (found : Match) : ExceptT Fault m (List Piece) := do
  if found.span.isEmpty then return []
  else match rule.action with
    | .token kind => return [← scan.token kind found.span]
    | .delegate handle => scan.delegate set host handle found.span
    | .groups parts =>
        scan.segments set host
          (Segment.partition scan.input found.span (groupPieces parts found.groups))
    | .callback call => do
        let context : MatchView := {
          input := scan.input
          captures := found.captures
          state := state.name
          depth := scan.stack.depth }
        host.record (.call context)
        let parts := (call.run context).map fun (kind, span) => (Part.kind kind, span)
        scan.segments set host (Segment.partition scan.input found.span parts)

-- The first rule that matches at the place. One search tells both the end of the match and its
-- groups, whether or not the action needs them.
def winner? (rules : List Rule) (place : Place) : Option (Rule × Match) :=
  rules.findSome? fun rule => (rule.pattern.matchAt place).map (rule, ·)

def follow (scan : Scan) (rule : Rule) (found : Match) : Scan :=
  { scan with
    cursor := found.span.stop
    stack := (scan.stack.apply rule.ops).1
    emptySteps := if found.span.isEmpty then scan.emptySteps + 1 else 0 }

-- What the winner at the cursor makes of a scan: one character becomes an error where there is no
-- winner, and also after one match of no text too many.
def respond (set : TableSet) (host : Host m) (scan : Scan) (state : State) :
    Option (Rule × Match) → ExceptT Fault m (Scan × List Piece)
  | none => skipChar { scan with emptySteps := 0 }
  | some (rule, found) => do
      let pieces ← scan.act set host state rule found
      let next := scan.follow rule found
      if set.options.maxEmptySteps < next.emptySteps then
        let (next, skipped) ← skipChar { next with emptySteps := 0 }
        return (next, pieces ++ skipped)
      else return (next, pieces)

-- The rules of the current state are tried at the cursor. The first that matches turns its match
-- into pieces, changes the stack and moves the cursor.
def step (set : TableSet) (host : Host m) (scan : Scan) :
    ExceptT Fault m (Scan × List Piece) := do
  let table ← orFault (.noTable scan.table) (set.table? scan.table)
  let state ← orFault (.noState scan.stack.top) (table.state? scan.stack.top)
  let place ← orFault (.badOffset scan.cursor) (scan.input.place? scan.cursor)
  let won := winner? state.rules place
  host.record (.step scan (won.map (·.1)))
  scan.respond set host state won

end Scan

end StackLexer
