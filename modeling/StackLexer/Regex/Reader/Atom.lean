import StackLexer.Regex.Tree
import StackLexer.Text.Blank
import StackLexer.Text.Count

namespace StackLexer.Regex

-- The characters that mean something in a pattern.
def isMeta (c : Char) : Bool := "\\.+*?()|[]\x7b\x7d^$#&-~".toList.contains c

-- A backslash before the character is allowed and changes nothing.
def isEscapable (c : Char) : Bool :=
  c.toNat < 0x80 && !(c.isAlphanum || c == '<' || c == '>')

namespace Reader

-- Drops white space, and comments from `#` to the end of the line.
def skipSpace (inComment : Bool) : Text → Text
  | [] => []
  | c :: rest =>
      if inComment then skipSpace (c != '\n') rest
      else if Text.isBlank c then skipSpace false rest
      else if c == '#' then skipSpace true rest
      else c :: rest

-- In verbose mode white space and comments are skipped everywhere, also between the characters of
-- an escape.
def skip (verbose : Bool) (text : Text) : Text := if verbose then skipSpace false text else text

-- The text behind its first character and the space after that.
def advance (verbose : Bool) (text : Text) : Text := skip verbose text.tail

-- What a single piece of syntax outside of brackets stands for. Its reader takes the text that is
-- left and gives what it read with the text behind it, or nothing if the syntax is wrong.
inductive Atom where
  | char (c : Char) (isByte : Bool)
  | anchor (kind : Anchor)
  | perl (kind : PerlClass) (negated : Bool)
  | property (wanted : Property) (negated : Bool)

def charOf? (n : Nat) : Option Char := if n.isValidChar then some (Char.ofNat n) else none

-- Exactly `count` more digits.
def hexDigits (verbose : Bool) : (count read : Nat) → Text → Option (Nat × Text)
  | 0, read, text => some (read, text)
  | count + 1, read, text => do
      let d ← Text.digit? 16 (← text.head?)
      hexDigits verbose count (read * 16 + d) (advance verbose text)

-- The digits up to the closing brace; `text` starts with what stands before the next one.
def hexBraced (verbose : Bool) : (fuel : Nat) → Option Nat → Text → Option (Nat × Text)
  | 0, _, _ => none
  | fuel + 1, read, text =>
      match advance verbose text with
      | [] => none
      | c :: rest =>
          if c = '\x7d' then read.map fun n => (n, skip verbose rest)
          else do
            let d ← Text.digit? 16 c
            hexBraced verbose fuel (some (read.getD 0 * 16 + d)) (c :: rest)

-- A code point in base 16, with `count` digits or in braces. The letter before it is read.
def hexChar (verbose : Bool) (count : Nat) (text : Text) : Option (Atom × Text) := do
  let text := skip verbose text
  if text.head? = some '\x7b' then
    let (n, rest) ← hexBraced verbose text.length none text
    return (.char (← charOf? n) false, rest)
  else
    let (n, rest) ← hexDigits verbose count 0 text
    return (.char (← charOf? n) (count = 2), rest)

def bracedName (verbose : Bool) : (fuel : Nat) → Text → Option (Text × Text)
  | 0, _ => none
  | fuel + 1, text =>
      match advance verbose text with
      | [] => none
      | c :: rest =>
          if c = '\x7d' then some ([], rest)
          else (bracedName verbose fuel (c :: rest)).map fun (name, left) => (c :: name, left)

-- The parts of `text` around the first occurrence of `sep`.
def cut? (sep : Text) : Text → Option (Text × Text)
  | [] => none
  | c :: rest => match Text.stripLead? sep (c :: rest) with
    | some after => some ([], after)
    | none => (cut? sep rest).map fun (before, after) => (c :: before, after)

-- A property behind `\p` or `\P`.
def propertyEscape (verbose negated : Bool) (text : Text) : Option (Atom × Text) :=
  match skip verbose text with
  | [] => none
  | c :: rest =>
      if c = '\x7b' then do
        let (name, left) ← bracedName verbose (rest.length + 1) (c :: rest)
        match cut? ['!', '='] name with
        | some (key, value) => return (.property (.valued key value) (!negated), left)
        | none => match (cut? [':'] name).or (cut? ['='] name) with
          | some (key, value) => return (.property (.valued key value) negated, left)
          | none => return (.property (.named name) negated, left)
      else if c = '\\' then none
      else some (.property (.letter c) negated, skip verbose rest)

-- Letters and dashes up to the end of the name of a word boundary.
def boundaryName (verbose : Bool) : (fuel : Nat) → Text → Text × Text
  | 0, text => ([], text)
  | _ + 1, [] => ([], [])
  | fuel + 1, c :: rest =>
      if c.isAlpha || c == '-' then
        let (name, left) := boundaryName verbose fuel (skip verbose rest)
        (c :: name, left)
      else ([], c :: rest)

-- What follows `\b`. An opening brace starts the name of a boundary if a letter or a dash
-- follows, and a counted repetition otherwise.
def boundary (verbose : Bool) (text : Text) : Option (Atom × Text) :=
  if text.head? = some '\x7b' then
    match advance verbose text with
    | [] => none
    | c :: rest =>
        if c.isAlpha || c == '-' then
          match boundaryName verbose (rest.length + 1) (c :: rest) with
          | (name, '\x7d' :: left) =>
              match String.ofList name with
              | "start" => some (.anchor .wordStart, left)
              | "end" => some (.anchor .wordEnd, left)
              | "start-half" => some (.anchor .wordStartHalf, left)
              | "end-half" => some (.anchor .wordEndHalf, left)
              | _ => none
          | _ => none
        else some (.anchor .wordBoundary, text)
  else some (.anchor .wordBoundary, text)

def escape (verbose : Bool) : Text → Option (Atom × Text)
  | [] => none
  | c :: rest =>
      if isMeta c || isEscapable c then some (.char c false, rest)
      else match c with
        | 'x' => hexChar verbose 2 rest
        | 'u' => hexChar verbose 4 rest
        | 'U' => hexChar verbose 8 rest
        | 'p' => propertyEscape verbose false rest
        | 'P' => propertyEscape verbose true rest
        | 'd' => some (.perl .digit false, rest)
        | 'D' => some (.perl .digit true, rest)
        | 's' => some (.perl .space false, rest)
        | 'S' => some (.perl .space true, rest)
        | 'w' => some (.perl .word false, rest)
        | 'W' => some (.perl .word true, rest)
        | 'a' => some (.char '\x07' false, rest)
        | 'f' => some (.char '\x0c' false, rest)
        | 't' => some (.char '\t' false, rest)
        | 'n' => some (.char '\n' false, rest)
        | 'r' => some (.char '\r' false, rest)
        | 'v' => some (.char '\x0b' false, rest)
        | 'A' => some (.anchor .textStart, rest)
        | 'z' => some (.anchor .textEnd, rest)
        | 'b' => boundary verbose rest
        | 'B' => some (.anchor .notWordBoundary, rest)
        | '<' => some (.anchor .wordStart, rest)
        | '>' => some (.anchor .wordEnd, rest)
        | _ => none

end Reader

end StackLexer.Regex
