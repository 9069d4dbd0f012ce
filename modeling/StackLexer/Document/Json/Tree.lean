import StackLexer.Document.Json.Number

namespace StackLexer.Json

def isSpace (c : Char) : Bool := c == ' ' || c == '\n' || c == '\t' || c == '\x0d'

def skipSpace (text : Text) : Text := text.dropWhile isSpace

def isSimpleEscape (c : Char) : Bool := "\"\\/bfnrt".toList.contains c

def isHexDigit (c : Char) : Bool := (Text.digit? 16 c).isSome

-- The characters of a string up to its closing quote. The opening one is read.
def stringBody? : Text → Option (Text × Text)
  | [] => none
  | '"' :: rest => some ([], rest)
  | '\\' :: 'u' :: a :: b :: c :: d :: rest =>
      if [a, b, c, d].all isHexDigit then
        (stringBody? rest).map fun (text, left) => ('\\' :: 'u' :: a :: b :: c :: d :: text, left)
      else none
  | '\\' :: c :: rest =>
      if isSimpleEscape c then
        (stringBody? rest).map fun (text, left) => ('\\' :: c :: text, left)
      else none
  | c :: rest =>
      if c.toNat < 0x20 || c = '\\' then none
      else (stringBody? rest).map fun (text, left) => (c :: text, left)

def leaf (text : Text) (style : Style) : Node := .scalar ⟨text, style, none⟩

-- A scalar other than a string.
def word? (text : Text) : Option (Node × Text) :=
  let keyword (word : Text) : Option (Node × Text) :=
    (Text.stripLead? word text).map fun rest => (leaf word .plain, rest)
  match text with
  | 'n' :: _ => keyword "null".toList
  | 't' :: _ => keyword "true".toList
  | 'f' :: _ => keyword "false".toList
  | text => (number? text).map fun (_, rest) =>
      (leaf (text.take (text.length - rest.length)) .plain, rest)

mutual

-- A value and the text behind it. Scalars are kept as they are written, and what they stand for is
-- told by `meaning`.
def value? : (fuel : Nat) → Text → Option (Node × Text)
  | 0, _ => none
  | fuel + 1, text =>
      match skipSpace text with
      | '"' :: rest => (stringBody? rest).map fun (body, left) => (leaf body .quoted, left)
      | '[' :: rest => match skipSpace rest with
        | ']' :: left => some (.sequence none [], left)
        | rest => (items? fuel rest).map fun (items, left) => (.sequence none items, left)
      | '\x7b' :: rest => match skipSpace rest with
        | '\x7d' :: left => some (.mapping none [], left)
        | rest => (entries? fuel rest).map fun (entries, left) => (.mapping none entries, left)
      | text => word? text

-- One or more values up to the closing bracket.
def items? : (fuel : Nat) → Text → Option (List Node × Text)
  | 0, _ => none
  | fuel + 1, text => do
      let (node, rest) ← value? fuel text
      match skipSpace rest with
      | ']' :: left => return ([node], left)
      | ',' :: rest =>
          let (nodes, left) ← items? fuel rest
          return (node :: nodes, left)
      | _ => none

-- One or more keys with their values up to the closing brace.
def entries? : (fuel : Nat) → Text → Option (List (Node × Node) × Text)
  | 0, _ => none
  | fuel + 1, text =>
      match skipSpace text with
      | '"' :: rest => do
          let (key, rest) ← stringBody? rest
          let rest ← Text.stripLead? [':'] (skipSpace rest)
          let (node, rest) ← value? fuel rest
          match skipSpace rest with
          | '\x7d' :: left => return ([(leaf key .quoted, node)], left)
          | ',' :: rest =>
              let (nodes, left) ← entries? fuel rest
              return ((leaf key .quoted, node) :: nodes, left)
          | _ => none
      | _ => none

end

def document? (text : Text) : Option Document := do
  let (root, rest) ← value? (2 * text.length + 2) text
  if (skipSpace rest).isEmpty then some ⟨.json, root, #[]⟩ else none

end StackLexer.Json
