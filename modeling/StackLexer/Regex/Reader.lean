import StackLexer.Regex.Reader.Bracket
import StackLexer.Unicode.Addition

namespace StackLexer.Regex

namespace Reader

-- Groups that are still open wait on a stack, so the reader takes one piece of syntax at a time and
-- always moves forward. Groups and alternations around the parts being read. Lists hold the last
-- element first.
inductive Frame where
  | group (outer : List Tree) (kind : GroupKind) (verbose : Bool)
  | alternation (branches : List Tree)

-- `parts` are those of the innermost sequence, the last one first; `captures` is the number of
-- capture groups opened so far and `names` are the names taken.
structure State where
  verbose : Bool
  parts : List Tree
  stack : List Frame
  captures : Nat
  names : List Text

def State.start : State := ⟨false, [], [], 0, []⟩

def sequence : List Tree → Tree
  | [] => .empty
  | [tree] => tree
  | parts => .concat parts.reverse

def choice : List Tree → Tree
  | [tree] => tree
  | branches => .alternation branches.reverse

def State.add (state : State) (tree : Tree) : State := { state with parts := tree :: state.parts }

-- A bar ends a branch.
def State.endBranch (state : State) : State :=
  let branch := sequence state.parts
  match state.stack with
  | .alternation branches :: rest =>
      { state with parts := [], stack := .alternation (branch :: branches) :: rest }
  | stack => { state with parts := [], stack := .alternation [branch] :: stack }

-- The tree of the innermost group, and the frames outside of it.
def State.inner (state : State) : Tree × List Frame :=
  match state.stack with
  | .alternation branches :: rest => (choice (sequence state.parts :: branches), rest)
  | stack => (sequence state.parts, stack)

def State.closeGroup (state : State) : Option State :=
  match state.inner with
  | (body, .group outer kind verbose :: rest) =>
      some { state with verbose := verbose, parts := .group kind body :: outer, stack := rest }
  | _ => none

def State.finish (state : State) : Option Tree :=
  match state.inner with
  | (tree, []) => some tree
  | _ => none

def flagOf? : Char → Option Flag
  | 'i' => some .caseInsensitive
  | 'm' => some .multiLine
  | 's' => some .dotNewline
  | 'U' => some .swapGreed
  | 'u' => some .unicode
  | 'R' => some .crlf
  | 'x' => some .verbose
  | _ => none

-- Flags up to a colon or a closing parenthesis. No flag comes twice, and neither does the
-- negation, which must not come last.
def flagItems (items : List FlagItem) : Text → Option (List FlagItem × Text)
  | [] => none
  | c :: rest =>
      if c = ':' || c = ')' then
        if items.getLast? = some .negation then none else some (items, c :: rest)
      else do
        let item ← if c = '-' then some .negation else (flagOf? c).map .flag
        if items.contains item then none else flagItems (items ++ [item]) rest

-- The name of a capture group up to its closing bracket.
def captureName (isFirst : Bool) : Text → Option (Text × Text)
  | [] => none
  | c :: rest =>
      if c = '>' then some ([], rest)
      else
        let isAllowed :=
          if isFirst then c == '_' || Unicode.isAlphabetic c
          else c == '_' || c == '.' || c == '[' || c == ']' || Unicode.isAlphanumeric c
        if isAllowed then (captureName false rest).map fun (name, left) => (c :: name, left)
        else none

def State.openGroup (state : State) (kind : GroupKind) (verbose : Bool) : State :=
  { state with
    verbose := verbose
    parts := []
    stack := .group state.parts kind state.verbose :: state.stack }

def State.openCapture (state : State) : State :=
  { state.openGroup (.capture (state.captures + 1)) state.verbose with
    captures := state.captures + 1 }

def isLookAround (text : Text) : Bool :=
  [['?', '='], ['?', '!'], ['?', '<', '='], ['?', '<', '!']].any fun lead =>
    (Text.stripLead? lead text).isSome

def State.readGroup (state : State) (text : Text) : Option (State × Text) := do
  let text := skip state.verbose text
  if isLookAround text then none
  else match (Text.stripLead? ['?', 'P', '<'] text).or (Text.stripLead? ['?', '<'] text) with
  | some rest => do
      let (name, left) ← captureName true rest
      if name.isEmpty || state.names.contains name then none
      else return ({ state.openCapture with names := name :: state.names }, left)
  | none => match text with
    | '?' :: rest => do
        let (items, left) ← flagItems [] rest
        let verbose := (FlagItem.state? .verbose false items).getD state.verbose
        match left with
        | ')' :: left =>
            if items.isEmpty then none
            else return ({ state.add (.flags items) with verbose := verbose }, left)
        | _ => return (state.openGroup (.plain items) verbose, left.tail)
    | _ => return (state.openCapture, text)

-- The part that a repetition applies to, and the parts before it.
def State.repeatable? (state : State) : Option (Tree × List Tree) :=
  match state.parts with
  | [] | .empty :: _ | .flags _ :: _ => none
  | tree :: rest => some (tree, rest)

def State.repeatLast (state : State) (min : Nat) (max : Option Nat) (greedy : Bool) :
    Option State := do
  let (tree, rest) ← state.repeatable?
  return { state with parts := .repeated min max greedy tree :: rest }

-- A question mark behind a repetition makes it lazy.
def greed (text : Text) : Bool × Text :=
  match text with
  | '?' :: rest => (false, rest)
  | _ => (true, text)

def digitRun (verbose : Bool) : (fuel : Nat) → Text → Text × Text
  | 0, text => ([], text)
  | _ + 1, [] => ([], [])
  | fuel + 1, c :: rest =>
      if c.isDigit then
        let (digits, left) := digitRun verbose fuel (skip verbose rest)
        (c :: digits, left)
      else ([], c :: rest)

def blankRun (verbose : Bool) : (fuel : Nat) → Text → Text
  | 0, text => text
  | fuel + 1, text =>
      if text.head?.any Text.isBlank then blankRun verbose fuel (advance verbose text) else text

-- A count of a repetition, with white space around it. It must fit 32 bits.
def count (verbose : Bool) (text : Text) : Option (Nat × Text) := do
  let (digits, left) := digitRun verbose text.length (text.dropWhile Text.isBlank)
  let n ← Text.digits? 10 digits
  if n < Nat.pow 2 32 then return (n, blankRun verbose left.length left) else none

-- The bounds of a repetition up to the closing brace. The opening brace is read.
def bounds (verbose : Bool) (text : Text) : Option (Nat × Option Nat × Text) := do
  let (min, rest) ← count verbose (skip verbose text)
  match rest with
  | '\x7d' :: left => return (min, some min, left)
  | ',' :: rest => match skip verbose rest with
    | [] => none
    | '\x7d' :: left => return (min, none, left)
    | rest => do
        let (max, rest) ← count verbose rest
        match rest with
        | '\x7d' :: left => if min ≤ max then return (min, some max, left) else none
        | _ => none
  | _ => none

def State.readBounds (state : State) (text : Text) : Option (State × Text) := do
  let _ ← state.repeatable?
  let (min, max, rest) ← bounds state.verbose text
  let (greedy, left) := greed (skip state.verbose rest)
  return (← state.repeatLast min max greedy, left)

def Atom.toTree : Atom → Tree
  | .char c isByte => .char c isByte
  | .anchor kind => .anchor kind
  | .perl kind negated => .perl kind negated
  | .property wanted negated => .property wanted negated

def State.readOne (state : State) (c : Char) (rest : Text) : Option (State × Text) :=
  let repeated (min : Nat) (max : Option Nat) : Option (State × Text) :=
    let (greedy, left) := greed rest
    (state.repeatLast min max greedy).map (·, left)
  match c with
  | '(' => state.readGroup rest
  | ')' => state.closeGroup.map (·, rest)
  | '|' => some (state.endBranch, rest)
  | '[' => (bracket state.verbose (c :: rest)).map fun (tree, left) => (state.add tree, left)
  | '?' => repeated 0 (some 1)
  | '*' => repeated 0 none
  | '+' => repeated 1 none
  | '\x7b' => state.readBounds rest
  | '\\' => (escape state.verbose rest).map fun (atom, left) => (state.add atom.toTree, left)
  | '.' => some (state.add .dot, rest)
  | '^' => some (state.add (.anchor .lineStart), rest)
  | '$' => some (state.add (.anchor .lineEnd), rest)
  | c => some (state.add (.char c false), rest)

def State.readAll : (fuel : Nat) → State → Text → Option Tree
  | 0, _, _ => none
  | fuel + 1, state, text => match skip state.verbose text with
    | [] => state.finish
    | c :: rest => do
        let (state, left) ← state.readOne c rest
        readAll fuel state left

end Reader

-- Deeper trees are refused.
def Tree.maxDepth : Nat := 250

def Tree.read? (source : Text) : Option Tree := do
  let tree ← Reader.State.readAll (source.length + 1) .start source
  if tree.depth ≤ maxDepth then some tree else none

end StackLexer.Regex
