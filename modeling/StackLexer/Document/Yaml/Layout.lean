import StackLexer.Document.Yaml.Lexeme
import StackLexer.Document.Yaml.Scalar

namespace StackLexer.Yaml

-- A key without a mark of its own is known only by the colon behind it. Where a node begins that
-- may be such a key, the place is kept as a candidate, and the lexemes that begin the pair are put
-- there when the colon comes. `position` counts the lexemes before it. A required candidate stands
-- where the block needs a key.
structure Candidate where
  position : Nat
  index : Nat
  line : Nat
  column : Nat
  required : Bool
deriving DecidableEq, Repr

-- Outside brackets, the indentation says where blocks begin and end. `indents` are the columns of
-- the open blocks, innermost first. `candidate` belongs to the innermost bracket; `outer` has those
-- of the brackets around it and of the block they are in.
structure Layout where
  cursor : Cursor
  indents : List Nat
  candidate : Option Candidate
  outer : List (Option Candidate)
  keyAllowed : Bool
  lexemes : Array Lexeme

namespace Layout

def start (text : Text) : Layout := ⟨.start text, [], none, [], true, #[]⟩

def isFlow (layout : Layout) : Bool := !layout.outer.isEmpty

def emit (layout : Layout) (lexeme : Lexeme) : Layout :=
  { layout with lexemes := layout.lexemes.push lexeme }

def insert (layout : Layout) (position : Nat) (lexeme : Lexeme) : Layout :=
  { layout with lexemes := layout.lexemes.insertIdxIfInBounds position lexeme }

def advance (layout : Layout) (count : Nat) : Layout :=
  { layout with cursor := layout.cursor.advance count }

-- Blanks, comments and breaks. A tab must not stand where a key could. A byte order mark at the
-- start of a line is skipped.
def skipSpace (isFlow : Bool) : (fuel : Nat) → Cursor → (keyAllowed : Bool) → Cursor × Bool
  | 0, cursor, keyAllowed => (cursor, keyAllowed)
  | fuel + 1, cursor, keyAllowed =>
      let isMarked := cursor.column = 0 && cursor.rest.head? = some '\ufeff'
      let cursor := if isMarked then cursor.advance 1 else cursor
      let cursor :=
        (cursor.skipWhile fun c => c == ' ' || ((isFlow || !keyAllowed) && c == '\t')).skipComment
      match cursor.break? with
      | some (_, next) => skipSpace isFlow fuel next (keyAllowed || !isFlow)
      | none => (cursor, keyAllowed)

def toNext (layout : Layout) : Layout :=
  let (cursor, keyAllowed) :=
    skipSpace layout.isFlow (layout.cursor.rest.length + 1) layout.cursor layout.keyAllowed
  { layout with cursor, keyAllowed }

-- A candidate is on one line with its colon, and at most 1024 bytes before it.
def isStale (cursor : Cursor) (candidate : Candidate) : Bool :=
  candidate.line < cursor.line || candidate.index + 1024 < cursor.index

-- The candidate as the text goes on. A required one must not be given up.
def refresh? (cursor : Cursor) : Option Candidate → Option (Option Candidate)
  | some candidate =>
      if !isStale cursor candidate then some (some candidate)
      else if candidate.required then none
      else some none
  | none => some none

def dropStale? (layout : Layout) : Option Layout := do
  let candidate ← refresh? layout.cursor layout.candidate
  let outer ← layout.outer.mapM (refresh? layout.cursor)
  return { layout with candidate, outer }

-- Closes all blocks that are indented by more than `column`.
def closeBlocks (column : Nat) : List Nat → Array Lexeme → List Nat × Array Lexeme
  | [], lexemes => ([], lexemes)
  | indent :: rest, lexemes =>
      if column < indent then closeBlocks column rest (lexemes.push .blockEnd)
      else (indent :: rest, lexemes)

def unindent (layout : Layout) (column : Nat) : Layout :=
  if layout.isFlow then layout
  else
    let (indents, lexemes) := closeBlocks column layout.indents layout.lexemes
    { layout with indents, lexemes }

def unindentAll (layout : Layout) : Layout :=
  if layout.isFlow then layout
  else
    { layout with
      indents := []
      lexemes := layout.indents.foldl (fun lexemes _ => lexemes.push .blockEnd) layout.lexemes }

-- Opens a block at `column`, unless one is open that is indented as much.
def indent (layout : Layout) (column position : Nat) (lexeme : Lexeme) : Layout :=
  let isDeeper := layout.indents.head?.all (· < column)
  if layout.isFlow || !isDeeper then layout
  else { layout.insert position lexeme with indents := column :: layout.indents }

def noCandidate? (layout : Layout) : Option Layout :=
  if layout.candidate.any (·.required) then none else some { layout with candidate := none }

-- What comes next becomes the candidate, if a key may stand here.
def candidate? (layout : Layout) : Option Layout :=
  if !layout.keyAllowed then some layout
  else do
    let layout ← layout.noCandidate?
    let cursor := layout.cursor
    let required := !layout.isFlow && layout.indents.head? == some cursor.column
    return { layout with
      candidate := some ⟨layout.lexemes.size, cursor.index, cursor.line, cursor.column, required⟩ }

def allowKey (layout : Layout) (keyAllowed : Bool) : Layout := { layout with keyAllowed }

-- The end of the text ends its last line and closes all blocks.
def finish? (layout : Layout) : Option (Array Lexeme) := do
  return (← layout.unindentAll.noCandidate?).lexemes

def directive? (layout : Layout) : Option Layout := do
  let layout ← layout.unindentAll.noCandidate?
  let cursor := layout.cursor.advance 1
  let (lexeme, rest) ← Yaml.directive? cursor.rest
  let cursor ← (cursor.advanceTo rest).endLine?
  return { layout.emit lexeme with cursor, keyAllowed := false }

def boundary? (layout : Layout) (lexeme : Lexeme) : Option Layout := do
  let layout ← layout.unindentAll.noCandidate?
  return ((layout.emit lexeme).advance 3).allowKey false

def openFlow? (layout : Layout) (lexeme : Lexeme) : Option Layout := do
  let layout ← layout.candidate?
  let layout := { layout with candidate := none, outer := layout.candidate :: layout.outer }
  return ((layout.emit lexeme).advance 1).allowKey true

def closeFlow? (layout : Layout) (lexeme : Lexeme) : Option Layout := do
  let layout ← layout.noCandidate?
  let layout := match layout.outer with
    | candidate :: outer => { layout with candidate, outer }
    | [] => layout
  return ((layout.emit lexeme).advance 1).allowKey false

def comma? (layout : Layout) : Option Layout := do
  let layout ← layout.noCandidate?
  return ((layout.emit .comma).advance 1).allowKey true

-- The start of a block where the cursor is. Inside brackets there are no blocks.
def block? (layout : Layout) (lexeme : Lexeme) : Option Layout :=
  if layout.isFlow then some layout
  else if layout.keyAllowed then
    some (layout.indent layout.cursor.column layout.lexemes.size lexeme)
  else none

def dash? (layout : Layout) : Option Layout := do
  let layout ← (← layout.block? .blockSequence).noCandidate?
  return ((layout.emit .dash).advance 1).allowKey true

def key? (layout : Layout) : Option Layout := do
  let layout ← (← layout.block? .blockMapping).noCandidate?
  return ((layout.emit .key).advance 1).allowKey !layout.isFlow

def value? (layout : Layout) : Option Layout :=
  match layout.candidate with
  | some candidate =>
      let layout := layout.insert candidate.position .key
      let layout := layout.indent candidate.column candidate.position .blockMapping
      let layout := { layout with candidate := none }
      some (((layout.emit .value).advance 1).allowKey false)
  | none => do
      let layout ← layout.block? .blockMapping
      return ((layout.emit .value).advance 1).allowKey !layout.isFlow

-- What may be or begin a key: `read?` gives its lexeme and where it ends.
def node? (layout : Layout) (read? : Cursor → Option (Lexeme × Cursor)) : Option Layout := do
  let layout ← layout.candidate?
  let (lexeme, cursor) ← read? layout.cursor
  return { layout.emit lexeme with cursor, keyAllowed := false }

def alias? (cursor : Cursor) : Option (Lexeme × Cursor) := do
  let (name, rest) ← name? (cursor.rest.drop 1)
  return (.alias name, cursor.advanceTo rest)

def anchor? (cursor : Cursor) : Option (Lexeme × Cursor) := do
  let (name, rest) ← name? (cursor.rest.drop 1)
  return (.anchor name, cursor.advanceTo rest)

def tag? (isFlow : Bool) (cursor : Cursor) : Option (Lexeme × Cursor) := do
  let (tag, rest) ← Yaml.tag? isFlow cursor.rest
  return (.tag tag, cursor.advanceTo rest)

def quoted? (quote : Char) (cursor : Cursor) : Option (Lexeme × Cursor) := do
  let (text, cursor) ← Yaml.quoted? quote cursor
  return (.scalar text .quoted, cursor)

def plain? (layout : Layout) : Option Layout := do
  let layout ← layout.candidate?
  let indent := match layout.indents with
    | column :: _ => column + 1
    | [] => 0
  let plain ← Yaml.plain? layout.isFlow indent layout.cursor
  return { layout.emit (.scalar plain.text .plain) with
    cursor := plain.cursor, keyAllowed := plain.endsLine }

def blockScalar? (isFolded : Bool) (layout : Layout) : Option Layout := do
  let layout ← layout.noCandidate?
  let (text, cursor) ← Yaml.block? isFolded layout.indents.head? layout.cursor
  let style : Style := if isFolded then .folded else .literal
  return { layout.emit (.scalar text style) with cursor, keyAllowed := true }

-- Characters that no plain scalar begins with.
def isMark (c : Char) : Bool := "-?:,[]\x7b\x7d#&*!|>'\"%@`".toList.contains c

-- A dash, a question mark or a colon begins a plain scalar where it is no mark.
def startsPlain (isFlow : Bool) (text : Text) : Bool :=
  match text with
  | [] => false
  | c :: rest =>
      !(isBlank c || isBreak c || isMark c) || (c == '-' && !rest.head?.any isBlank) ||
        (!isFlow && (c == '?' || c == ':') && !isGap rest)

-- What comes next, which is not white space.
def lexeme? (layout : Layout) : Option Layout :=
  let isFlow := layout.isFlow
  if layout.cursor.column = 0 ∧ layout.cursor.rest.head? = some '%' then layout.directive?
  else if layout.cursor.isAtBoundary then
    layout.boundary? (if layout.cursor.rest.head? = some '-' then .documentStart else .documentEnd)
  else match layout.cursor.rest with
    | '[' :: _ => layout.openFlow? .flowSequence
    | '\x7b' :: _ => layout.openFlow? .flowMapping
    | ']' :: _ => layout.closeFlow? .flowSequenceEnd
    | '\x7d' :: _ => layout.closeFlow? .flowMappingEnd
    | ',' :: _ => layout.comma?
    | '*' :: _ => layout.node? alias?
    | '&' :: _ => layout.node? anchor?
    | '!' :: _ => layout.node? (tag? isFlow)
    | '\'' :: _ => layout.node? (quoted? '\'')
    | '"' :: _ => layout.node? (quoted? '"')
    | '|' :: _ => if isFlow then none else layout.blockScalar? false
    | '>' :: _ => if isFlow then none else layout.blockScalar? true
    | c :: rest =>
        if c = '-' ∧ isGap rest then layout.dash?
        else if c = '?' ∧ (isFlow ∨ isGap rest) then layout.key?
        else if c = ':' ∧ (isFlow ∨ isGap rest) then layout.value?
        else if startsPlain isFlow layout.cursor.rest then layout.plain?
        else none
    | [] => none

-- Each lexeme that is written takes up at least one character.
def run? : (fuel : Nat) → Layout → Option (Array Lexeme)
  | 0, _ => none
  | fuel + 1, layout => do
      let layout ← layout.toNext.dropStale?
      let layout := layout.unindent layout.cursor.column
      if layout.cursor.rest.isEmpty then layout.finish? else run? fuel (← layout.lexeme?)

end Layout

def lexemes? (text : Text) : Option (List Lexeme) :=
  if text.all isAllowed then
    ((Layout.start text).run? (text.length + 1)).map Array.toList
  else none

end StackLexer.Yaml
