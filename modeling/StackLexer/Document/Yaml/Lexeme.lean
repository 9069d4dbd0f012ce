import StackLexer.Document.Node
import StackLexer.Document.Yaml.Cursor
import StackLexer.Text.Count

namespace StackLexer.Yaml

-- What is written in full: `handle` is short for the start of a tag, `suffix` is its end.
structure Tag where
  handle : Text
  suffix : Text
deriving DecidableEq, Repr

-- What every tag of the language itself begins with.
def coreLead : Text := "tag:yaml.org,2002:".toList

-- Brackets that the indentation stands for are lexemes like those that are written. A block ends
-- where a line is indented less. `dash` and `comma` stand before elements, `key` and `value` before
-- the parts of a pair.
inductive Lexeme where
  | version (major minor : Nat)
  | handle (handle lead : Text)
  | documentStart
  | documentEnd
  | blockSequence
  | blockMapping
  | blockEnd
  | flowSequence
  | flowSequenceEnd
  | flowMapping
  | flowMappingEnd
  | dash
  | comma
  | key
  | value
  | alias (name : Text)
  | anchor (name : Text)
  | tag (tag : Tag)
  | scalar (text : Text) (style : Style)
deriving DecidableEq, Repr

-- A word of one or more characters, and the rest.
def word? (text : Text) : Option (Text × Text) :=
  let word := text.takeWhile isWordChar
  if word.isEmpty then none else some (word, text.dropWhile isWordChar)

def name? (text : Text) : Option (Text × Text) := do
  let (name, rest) ← word? text
  let ends := isGap rest || rest.head?.any "?:,]\x7d%@`".toList.contains
  if ends then some (name, rest) else none

def isTagChar (c : Char) : Bool := isWordChar c || ";/?:@&=+$.!~*'()".toList.contains c

-- The number of bytes of a character by its first byte.
def charWidth? (lead : Nat) : Option Nat :=
  if lead < 0x80 then some 1
  else if lead < 0xc0 then none
  else if lead < 0xe0 then some 2
  else if lead < 0xf0 then some 3
  else if lead < 0xf8 then some 4
  else none

-- One byte, written by a percent sign and two digits.
def escapedByte? : Text → Option (Nat × Text)
  | '%' :: a :: b :: rest => (Text.digits? 16 [a, b]).map (·, rest)
  | _ => none

-- The bytes of a character behind its first one.
def escapedTail? : (count : Nat) → Text → Option (List Nat × Text)
  | 0, text => some ([], text)
  | count + 1, text => do
      let (byte, rest) ← escapedByte? text
      if byte / 64 ≠ 2 then none
      else
        let (bytes, left) ← escapedTail? count rest
        return (byte :: bytes, left)

-- The bytes of a character, each of them escaped.
def escapedChar? (text : Text) : Option (List Nat × Text) := do
  let (lead, rest) ← escapedByte? text
  let (bytes, left) ← escapedTail? ((← charWidth? lead) - 1) rest
  return (lead :: bytes, left)

-- The characters of a tag up to one that cannot stand in it. Escaped bytes are decoded.
def tagText? (isChar : Char → Bool) : (fuel : Nat) → Text → Option (Text × Text)
  | 0, _ => none
  | _ + 1, [] => some ([], [])
  | fuel + 1, c :: rest =>
      if c = '%' then do
        let (bytes, rest) ← escapedChar? (c :: rest)
        let (text, left) ← tagText? isChar fuel rest
        return (decoded bytes ++ text, left)
      else if isChar c then
        (tagText? isChar fuel rest).map fun (text, left) => (c :: text, left)
      else some ([], c :: rest)
where
  -- Bytes that are no character count for one that no tag of the language has.
  decoded (bytes : List Nat) : Text :=
    match String.fromUTF8? ⟨(bytes.map (·.toUInt8)).toArray⟩ with
    | some text => text.toList
    | none => ['\ufffd']

def tagRun? (isChar : Char → Bool) (text : Text) : Option (Text × Text) :=
  tagText? isChar (text.length + 1) text

def isUriChar (c : Char) : Bool := isTagChar c || c == ',' || c == '[' || c == ']'

-- An exclamation mark and a word; `closed` says that another mark follows the word.
structure Handle where
  text : Text
  closed : Bool
  rest : Text

def handle? : Text → Option Handle
  | '!' :: rest =>
      let word := rest.takeWhile isWordChar
      match rest.dropWhile isWordChar with
      | '!' :: left => some ⟨'!' :: word ++ ['!'], true, left⟩
      | left => some ⟨'!' :: word, false, left⟩
  | _ => none

def nonempty? (read : Text × Text) : Option (Text × Text) :=
  if read.1.isEmpty then none else some read

-- A tag in full, in angle brackets.
def verbatimTag? (text : Text) : Option (Tag × Text) := do
  let (suffix, rest) ← (tagRun? isUriChar text).bind nonempty?
  match rest with
  | '>' :: left => return (⟨[], suffix⟩, left)
  | _ => none

-- A tag by its handle. A single exclamation mark is a tag in full.
def shortTag? (text : Text) : Option (Tag × Text) := do
  let handle ← handle? text
  if handle.closed then
    let (suffix, rest) ← (tagRun? isTagChar handle.rest).bind nonempty?
    return (⟨handle.text, suffix⟩, rest)
  else
    let (suffix, rest) ← tagRun? isTagChar handle.rest
    match handle.text.drop 1 ++ suffix with
    | [] => return (⟨[], ['!']⟩, rest)
    | suffix => return (⟨['!'], suffix⟩, rest)

def tag? (isFlow : Bool) (text : Text) : Option (Tag × Text) := do
  let (tag, rest) ← match text with
    | '!' :: '<' :: rest => verbatimTag? rest
    | _ => shortTag? text
  if isGap rest || (isFlow && rest.head? == some ',') then some (tag, rest) else none

def versionPart? (text : Text) : Option (Nat × Text) := do
  let digits := text.takeWhile Char.isDigit
  let n ← Text.digits? 10 digits
  if digits.length ≤ 9 then some (n, text.dropWhile Char.isDigit) else none

def version? (text : Text) : Option (Lexeme × Text) := do
  let (major, rest) ← versionPart? text
  let (minor, rest) ← versionPart? (← Text.stripLead? ['.'] rest)
  return (.version major minor, rest)

def tagDirective? (text : Text) : Option (Lexeme × Text) := do
  let handle ← handle? text
  let isHandle := handle.closed || handle.text == ['!']
  let lead := handle.rest.dropWhile isBlank
  if isHandle && handle.rest.head?.any isBlank then
    let (lead, rest) ← (tagRun? isUriChar lead).bind nonempty?
    if isGap rest then some (.handle handle.text lead, rest) else none
  else none

-- A directive, of which the percent sign is read.
def directive? (text : Text) : Option (Lexeme × Text) := do
  let (word, rest) ← word? text
  if !isGap rest then none
  else
    let value := rest.dropWhile isBlank
    if word = "YAML".toList then version? value
    else if word = "TAG".toList then tagDirective? value
    else none

end StackLexer.Yaml
