import StackLexer.Text

namespace StackLexer.Yaml

-- A break ends a line. Two characters in a row can be one break: a carriage return and the newline
-- after it.
def isBreak (c : Char) : Bool :=
  c == '\n' || c == '\x0d' || c == '\u0085' || c == '\u2028' || c == '\u2029'

def isBlank (c : Char) : Bool := c == ' ' || c == '\t'

-- The text goes on with a blank or a break, or ends.
def isGap : Text → Bool
  | [] => true
  | c :: _ => isBlank c || isBreak c

-- Characters of names: of anchors, tags and directives.
def isWordChar (c : Char) : Bool := c.isAlphanum || c == '-' || c == '_'

-- Characters that a text may hold.
def isAllowed (c : Char) : Bool :=
  let n := c.toNat
  n == 0x9 || n == 0xa || n == 0xd || (0x20 ≤ n && n ≤ 0x7e) || n == 0x85 ||
    (0xa0 ≤ n && n ≤ 0xfffd) || 0x10000 ≤ n

-- `index` counts bytes from the start of the text, `column` characters from the start of the line.
structure Cursor where
  rest : Text
  index : Nat
  line : Nat
  column : Nat
deriving DecidableEq, Repr

namespace Cursor

def start (text : Text) : Cursor := ⟨text, 0, 0, 0⟩

-- Past `count` characters, none of them a break.
def advance (cursor : Cursor) (count : Nat) : Cursor :=
  { cursor with
    rest := cursor.rest.drop count
    index := cursor.index + Text.size (cursor.rest.take count)
    column := cursor.column + count }

-- Past all that is in front of `rest`, which is an end of what is still to be read.
def advanceTo (cursor : Cursor) (rest : Text) : Cursor :=
  cursor.advance (cursor.rest.length - rest.length)

def skipWhile (cursor : Cursor) (p : Char → Bool) : Cursor :=
  cursor.advance (cursor.rest.takeWhile p).length

-- The break that comes next as it counts in a scalar, and the start of the line after it.
def break? (cursor : Cursor) : Option (Char × Cursor) :=
  let past (count : Nat) : Cursor :=
    let index := cursor.index + Text.size (cursor.rest.take count)
    ⟨cursor.rest.drop count, index, cursor.line + 1, 0⟩
  match cursor.rest with
  | '\x0d' :: '\n' :: _ => some ('\n', past 2)
  | c :: _ =>
      if c == '\u2028' || c == '\u2029' then some (c, past 1)
      else if isBreak c then some ('\n', past 1)
      else none
  | [] => none

def skipBreak (cursor : Cursor) : Cursor :=
  match cursor.break? with
  | some (_, next) => next
  | none => cursor

-- A comment, if one comes next. It ends where its line ends.
def skipComment (cursor : Cursor) : Cursor :=
  match cursor.rest with
  | '#' :: _ => cursor.skipWhile fun c => !isBreak c
  | _ => cursor

-- Past the break at the end of a line that may have only a comment left.
def endLine? (cursor : Cursor) : Option Cursor :=
  let cursor := (cursor.skipWhile isBlank).skipComment
  match cursor.rest with
  | [] => some cursor
  | c :: _ => if isBreak c then some cursor.skipBreak else none

-- Three dashes or three dots at the start of a line stand between documents.
def isAtBoundary (cursor : Cursor) : Bool :=
  cursor.column == 0 &&
    match cursor.rest with
    | '-' :: '-' :: '-' :: rest => isGap rest
    | '.' :: '.' :: '.' :: rest => isGap rest
    | _ => false

end Cursor

end StackLexer.Yaml
