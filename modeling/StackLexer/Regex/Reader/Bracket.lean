import StackLexer.Regex.Reader.Atom

namespace StackLexer.Regex

def AsciiClass.ofName? (name : String) : Option AsciiClass :=
  match name with
  | "alnum" => some .alnum
  | "alpha" => some .alpha
  | "ascii" => some .ascii
  | "blank" => some .blank
  | "cntrl" => some .cntrl
  | "digit" => some .digit
  | "graph" => some .graph
  | "lower" => some .lower
  | "print" => some .print
  | "punct" => some .punct
  | "space" => some .space
  | "upper" => some .upper
  | "word" => some .word
  | "xdigit" => some .xdigit
  | _ => none

namespace Reader

-- What is open around the items being read. `items` are those before an opening bracket, the
-- last one first.
inductive ClassFrame where
  | opened (items : List ClassTree) (negated : Bool)
  | operator (op : SetOp) (left : ClassTree)

-- The items, the last one first, as one operand.
def operand : List ClassTree → ClassTree
  | [] => .empty
  | [item] => item
  | items => .union items.reverse

-- Applies the operator that waits for its right side, if one does. All operators have one
-- precedence and group to the left.
def applyOperator (stack : List ClassFrame) (right : ClassTree) : ClassTree × List ClassFrame :=
  match stack with
  | .operator op left :: rest => (.binary op left right, rest)
  | _ => (right, stack)

-- Dashes at the start of a class stand for themselves.
def leadingDashes (verbose : Bool) : (fuel : Nat) → Text → List ClassTree × Text
  | 0, text => ([], text)
  | fuel + 1, text =>
      if text.head? = some '-' then
        let (items, left) := leadingDashes verbose fuel (advance verbose text)
        (.char '-' :: items, left)
      else ([], text)

-- The start of a class: `[` or `[^`, dashes, and a closing bracket that stands for itself.
def openClass (verbose : Bool) (text : Text) : Option (Bool × List ClassTree × Text) :=
  let text := advance verbose text
  let negated := text.head? = some '^'
  let text := if negated then advance verbose text else text
  let (dashes, text) := leadingDashes verbose text.length text
  let (items, text) :=
    if dashes.isEmpty && text.head? == some ']' then ([.char ']'], advance verbose text)
    else (dashes, text)
  if text.isEmpty then none else some (negated, items, text)

-- A class such as `[:alpha:]`, if `text` starts with one.
def asciiClass (text : Text) : Option (ClassTree × Text) := do
  let inner ← Text.stripLead? ['[', ':'] text
  let negated := inner.head? == some '^'
  let inner := if negated then inner.tail else inner
  let kind ← AsciiClass.ofName? (String.ofList (inner.takeWhile (· != ':')))
  let left ← Text.stripLead? [':', ']'] (inner.dropWhile (· != ':'))
  return (.ascii kind negated, left)

def classAtom (verbose : Bool) : Text → Option (Atom × Text)
  | [] => none
  | '\\' :: rest => escape verbose rest
  | c :: rest => some (.char c false, rest)

def Atom.toItem? : Atom → Option ClassTree
  | .char c _ => some (.char c)
  | .perl kind negated => some (.perl kind negated)
  | .property wanted negated => some (.property wanted negated)
  | .anchor _ => none

-- The first character past the blanks that follow, for the decision whether a dash makes a
-- range. A comment is entered but not left.
def peekBeyond (inComment : Bool) : Text → Option Char
  | [] => none
  | c :: rest =>
      if Text.isBlank c then peekBeyond inComment rest
      else if !inComment && c == '#' then peekBeyond true rest
      else some c

def peek (verbose : Bool) (text : Text) : Option Char :=
  if verbose then (peekBeyond false text.tail).or text.tail.head? else text.tail.head?

def classItem (verbose : Bool) (text : Text) : Option (ClassTree × Text) := do
  let (first, rest) ← classAtom verbose text
  let rest := skip verbose rest
  let c ← rest.head?
  let ahead := peek verbose rest
  if c != '-' || ahead == some ']' || ahead == some '-' then
    return (← first.toItem?, rest)
  else
    match first, ← classAtom verbose (advance verbose rest) with
    | .char a _, (.char b _, left) => if a.val ≤ b.val then some (.range a b, left) else none
    | _, _ => none

-- Reads on inside a class until the bracket that closes the outermost one.
def classBody (verbose : Bool) : (fuel : Nat) → List ClassTree → List ClassFrame → Text →
    Option (Tree × Text)
  | 0, _, _, _ => none
  | fuel + 1, items, stack, text =>
      let operatorOf (op : SetOp) (rest : Text) :=
        let (left, stack) := applyOperator stack (operand items)
        classBody verbose fuel [] (.operator op left :: stack) rest
      match skip verbose text with
      | [] => none
      | '&' :: '&' :: rest => operatorOf .inter rest
      | '-' :: '-' :: rest => operatorOf .diff rest
      | '~' :: '~' :: rest => operatorOf .symmDiff rest
      | ']' :: rest =>
          match applyOperator stack (operand items) with
          | (body, [.opened _ negated]) => some (.bracket negated body, rest)
          | (body, .opened outer negated :: stack) =>
              classBody verbose fuel (.bracket negated body :: outer) stack rest
          | _ => none
      | '[' :: rest =>
          match asciiClass ('[' :: rest) with
          | some (item, left) => classBody verbose fuel (item :: items) stack left
          | none => do
              let (negated, inner, left) ← openClass verbose ('[' :: rest)
              classBody verbose fuel inner.reverse (.opened items negated :: stack) left
      | text => do
          let (item, left) ← classItem verbose text
          classBody verbose fuel (item :: items) stack left

def bracket (verbose : Bool) (text : Text) : Option (Tree × Text) := do
  let (negated, items, rest) ← openClass verbose text
  classBody verbose text.length items.reverse [.opened [] negated] rest

end Reader

end StackLexer.Regex
