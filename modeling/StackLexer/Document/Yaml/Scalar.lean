import StackLexer.Document.Yaml.Cursor
import StackLexer.Text.Count

namespace StackLexer.Yaml

-- A scalar is made of pieces that hold no white space at their ends, with gaps between them. White
-- space between two pieces. `blanks` counts where no break follows.
structure Gap where
  blanks : Text
  breaks : List Text
deriving DecidableEq, Repr

namespace Gap

-- A single break joins lines by a space; of more breaks, the first one is dropped.
def folded (gap : Gap) : Text :=
  match gap.breaks with
  | [] => gap.blanks
  | first :: rest =>
      if first = ['\n'] then (if rest.isEmpty then [' '] else rest.flatten)
      else first ++ rest.flatten

end Gap

-- The gap that goes on from `gap`. A tab must not stand where a line has to be indented by
-- `indent` columns.
def gapFrom? (indent : Nat) : (fuel : Nat) → Gap → Cursor → Option (Gap × Cursor)
  | 0, _, _ => none
  | fuel + 1, gap, cursor =>
      match cursor.break? with
      | some (c, next) => gapFrom? indent fuel ⟨[], gap.breaks ++ [[c]]⟩ next
      | none => match cursor.rest with
        | c :: _ =>
            if !isBlank c then some (gap, cursor)
            else if gap.breaks.isEmpty then
              gapFrom? indent fuel { gap with blanks := gap.blanks ++ [c] } (cursor.advance 1)
            else if c = '\t' ∧ cursor.column < indent then none
            else gapFrom? indent fuel gap (cursor.advance 1)
        | [] => some (gap, cursor)

def gap? (indent : Nat) (gap : Gap) (cursor : Cursor) : Option (Gap × Cursor) :=
  gapFrom? indent (cursor.rest.length + 1) gap cursor

-- How a piece of a quoted scalar ends: before a quote or a gap, or with a break that is escaped.
structure Piece where
  text : Text
  rest : Text
  joins : Bool

def Piece.lead (c : Char) (piece : Piece) : Piece := { piece with text := c :: piece.text }

-- In single quotes, two quotes are one.
def singlePiece : Text → Piece
  | '\'' :: '\'' :: rest => (singlePiece rest).lead '\''
  | '\'' :: rest => ⟨[], '\'' :: rest, false⟩
  | c :: rest =>
      if isBlank c || isBreak c then ⟨[], c :: rest, false⟩ else (singlePiece rest).lead c
  | [] => ⟨[], [], false⟩

-- What a letter stands for behind a backslash.
def escape? : Char → Option Char
  | '0' => some '\x00'
  | 'a' => some '\x07'
  | 'b' => some '\x08'
  | 't' | '\t' => some '\t'
  | 'n' => some '\n'
  | 'v' => some '\x0b'
  | 'f' => some '\x0c'
  | 'r' => some '\x0d'
  | 'e' => some '\x1b'
  | ' ' => some ' '
  | '"' => some '"'
  | '/' => some '/'
  | '\\' => some '\\'
  | 'N' => some '\u0085'
  | '_' => some '\u00a0'
  | 'L' => some '\u2028'
  | 'P' => some '\u2029'
  | _ => none

-- The number of digits of an escape by code point.
def escapeWidth? : Char → Option Nat
  | 'x' => some 2
  | 'u' => some 4
  | 'U' => some 8
  | _ => none

def codePoint? (width : Nat) (text : Text) : Option Char := do
  let digits := text.take width
  let n ← Text.digits? 16 digits
  if digits.length = width ∧ n.isValidChar then some (Char.ofNat n) else none

def doublePiece? : (fuel : Nat) → Text → Option Piece
  | 0, _ => none
  | _ + 1, [] => some ⟨[], [], false⟩
  | _ + 1, '"' :: rest => some ⟨[], '"' :: rest, false⟩
  | _ + 1, ['\\'] => none
  | fuel + 1, '\\' :: c :: rest =>
      if isBreak c then some ⟨[], c :: rest, true⟩
      else match escapeWidth? c with
        | some width => do
            let char ← codePoint? width rest
            return (← doublePiece? fuel (rest.drop width)).lead char
        | none => do
            let char ← escape? c
            return (← doublePiece? fuel rest).lead char
  | fuel + 1, c :: rest =>
      if isBlank c || isBreak c then some ⟨[], c :: rest, false⟩
      else (doublePiece? fuel rest).map (·.lead c)

def piece? (quote : Char) (text : Text) : Option Piece :=
  if quote = '"' then doublePiece? (text.length + 1) text else some (singlePiece text)

def quotedFrom? (quote : Char) : (fuel : Nat) → Cursor → Option (Text × Cursor)
  | 0, _ => none
  | fuel + 1, cursor =>
      if cursor.isAtBoundary || cursor.rest.isEmpty then none
      else do
        let piece ← piece? quote cursor.rest
        let cursor := cursor.advanceTo piece.rest
        let (start, cursor) : Gap × Cursor :=
          if piece.joins then (⟨[], [[]]⟩, cursor.skipBreak) else (⟨[], []⟩, cursor)
        if cursor.rest.head? = some quote then return (piece.text, cursor.advance 1)
        else
          let (gap, cursor) ← gap? 0 start cursor
          let (text, cursor) ← quotedFrom? quote fuel cursor
          return (piece.text ++ gap.folded ++ text, cursor)

def quoted? (quote : Char) (cursor : Cursor) : Option (Text × Cursor) :=
  quotedFrom? quote (cursor.rest.length + 1) (cursor.advance 1)

-- The brackets, and the comma between what they hold.
def isFlowMark (c : Char) : Bool := c == ',' || c == '[' || c == ']' || c == '\x7b' || c == '\x7d'

-- A piece of a plain scalar. Inside brackets, a colon must not stand right before one of their
-- marks.
def plainPiece? (isFlow : Bool) : Text → Option Text
  | [] => some []
  | c :: rest =>
      if isBlank c || isBreak c then some []
      else if isFlow && c == ':' && (rest.head?.any fun d => isFlowMark d || d == '?') then none
      else if c == ':' && isGap rest then some []
      else if isFlow && isFlowMark c then some []
      else (plainPiece? isFlow rest).map (c :: ·)

structure Plain where
  text : Text
  cursor : Cursor
  endsLine : Bool

-- The pieces of a plain scalar from the one that `gap` stands before. Lines after the first are
-- indented by `indent` columns, but not inside brackets.
def plainFrom? (isFlow : Bool) (indent : Nat) : (fuel : Nat) → Gap → Cursor → Option Plain
  | 0, _, _ => none
  | fuel + 1, gap, cursor =>
      let stop := some ⟨[], cursor, !gap.breaks.isEmpty⟩
      if cursor.isAtBoundary || cursor.rest.head? = some '#' then stop
      else do
        let piece ← plainPiece? isFlow cursor.rest
        if piece.isEmpty then stop
        else
          let cursor := cursor.advance piece.length
          let (next, after) ← gap? indent ⟨[], []⟩ cursor
          if after.index = cursor.index then return ⟨gap.folded ++ piece, cursor, false⟩
          else if !isFlow && after.column < indent then
            return ⟨gap.folded ++ piece, after, !next.breaks.isEmpty⟩
          else
            let plain ← plainFrom? isFlow indent fuel next after
            return { plain with text := gap.folded ++ piece ++ plain.text }

def plain? (isFlow : Bool) (indent : Nat) (cursor : Cursor) : Option Plain :=
  plainFrom? isFlow indent (cursor.rest.length + 1) ⟨[], []⟩ cursor

-- What becomes of the breaks at the end of a block scalar.
inductive Chomping where
  | strip
  | clip
  | keep
deriving DecidableEq, Repr

def chomping? : Char → Option Chomping
  | '-' => some .strip
  | '+' => some .keep
  | _ => none

-- How far a block scalar is indented past what holds it: a digit, but no zero.
def increment? (c : Char) : Option Nat :=
  if c.isDigit then some (c.toNat - '0'.toNat) else none

-- The marks of a block scalar, each at most once and in any order.
def blockMarks (text : Text) : Chomping × Option Nat × Text :=
  match text with
  | a :: rest => match chomping? a, increment? a with
    | some chomping, _ => match rest with
      | b :: left => match increment? b with
        | some n => (chomping, some n, left)
        | none => (chomping, none, rest)
      | [] => (chomping, none, [])
    | none, some n => match rest with
      | b :: left => match chomping? b with
        | some chomping => (chomping, some n, left)
        | none => (.clip, some n, rest)
      | [] => (.clip, some n, [])
    | none, none => (.clip, none, text)
  | [] => (.clip, none, [])

-- Empty lines, and the indentation of the line after them. Where `indent?` is not known yet, no
-- column ends it. `deepest` is the longest indentation so far.
def emptyLines? (indent? : Option Nat) : (fuel : Nat) → (breaks : Text) → (deepest : Nat) → Cursor →
    Option (Text × Nat × Cursor)
  | 0, _, _, _ => none
  | fuel + 1, breaks, deepest, cursor =>
      let spaces := (cursor.rest.takeWhile (· == ' ')).length
      let cursor := cursor.advance (match indent? with
        | some indent => min spaces (indent - cursor.column)
        | none => spaces)
      let deepest := max deepest cursor.column
      let isShort := indent?.all fun indent => cursor.column < indent
      if isShort && cursor.rest.head? = some '\t' then none
      else match cursor.break? with
        | some (c, next) => emptyLines? indent? fuel (breaks ++ [c]) deepest next
        | none => some (breaks, deepest, cursor)

-- The lines of a block scalar. `pending` is the break before the line and `empty` the breaks of
-- empty lines after that one; `isIndented` says that the line before began with white space.
def blockLines? (isFolded : Bool) (chomping : Chomping) (indent : Nat) :
    (fuel : Nat) → (pending empty : Text) → (isIndented : Bool) → Cursor → Option (Text × Cursor)
  | 0, _, _, _, _ => none
  | fuel + 1, pending, empty, isIndented, cursor =>
      if cursor.column ≠ indent ∨ cursor.rest.isEmpty then
        let last := if chomping = .strip then [] else pending
        let tail := if chomping = .keep then empty else []
        some (last ++ tail, cursor)
      else do
        let startsBlank := cursor.rest.head?.any isBlank
        let joined :=
          if isFolded && pending = ['\n'] && !isIndented && !startsBlank then
            (if empty.isEmpty then [' '] else empty)
          else pending ++ empty
        let line := cursor.rest.takeWhile fun c => !isBreak c
        let cursor := cursor.advance line.length
        let (pending, cursor) := match cursor.break? with
          | some (c, next) => ([c], next)
          | none => ([], cursor)
        let (empty, _, cursor) ←
          emptyLines? (some indent) (cursor.rest.length + 1) [] 0 cursor
        let (text, cursor) ←
          blockLines? isFolded chomping indent fuel pending empty startsBlank cursor
        return (joined ++ line ++ text, cursor)

-- A block scalar; its first mark comes next. `outer` is the indentation of what holds it.
def block? (isFolded : Bool) (outer : Option Nat) (cursor : Cursor) : Option (Text × Cursor) := do
  let cursor := cursor.advance 1
  let (chomping, increment, rest) := blockMarks cursor.rest
  if increment = some 0 then none
  else
    let cursor ← (cursor.advanceTo rest).endLine?
    let given := increment.map (outer.getD 0 + ·)
    let (empty, deepest, cursor) ← emptyLines? given (cursor.rest.length + 1) [] 0 cursor
    let least := match outer with
      | some column => column + 1
      | none => 1
    blockLines? isFolded chomping (given.getD (max deepest least)) (cursor.rest.length + 1) [] empty
      false cursor

end StackLexer.Yaml
