import StackLexer.Regex.Look

namespace StackLexer.Regex

-- A pattern in its simplified form: no sequence stands directly in a sequence and no choice in a
-- choice, neighbouring literals are one literal, nothing empty stands in a sequence, and a choice
-- between single characters or between sets is one set. The functions `chars`, `repeat_`,
-- `sequence` and `choice` keep this form. `set CharSet.empty` matches nothing at all.
inductive Expr where
  | empty
  | literal (text : Text)
  | set (chars : CharSet)
  | look (look : Look)
  | repeated (min : Nat) (max : Option Nat) (greedy : Bool) (body : Expr)
  | group (index : Nat) (body : Expr)
  | concat (parts : List Expr)
  | alternation (branches : List Expr)

namespace Expr

mutual

-- Fewest bytes of a match. There is no answer for an expression with a part that can never
-- match, wherever that part stands.
def minSize? : Expr → Option Nat
  | .empty | .look _ => some 0
  | .literal text => some text.size
  | .set chars => chars.minSize?
  | .repeated min _ _ body => body.minSize?.map (· * min)
  | .group _ body => body.minSize?
  | .concat parts => minSizeSum? parts
  | .alternation branches => minSizeLeast? branches

def minSizeSum? : List Expr → Option Nat
  | [] => some 0
  | part :: rest => do return (← part.minSize?) + (← minSizeSum? rest)

def minSizeLeast? : List Expr → Option Nat
  | [] => none
  | [branch] => branch.minSize?
  | branch :: rest => do return min (← branch.minSize?) (← minSizeLeast? rest)

end

mutual

-- Most bytes of a match, if there is a limit.
def maxSize? : Expr → Option Nat
  | .empty | .look _ => some 0
  | .literal text => some text.size
  | .set chars => chars.maxSize?
  | .repeated _ max _ body => do return (← body.maxSize?) * (← max)
  | .group _ body => body.maxSize?
  | .concat parts => maxSizeSum? parts
  | .alternation branches => maxSizeMost? branches

def maxSizeSum? : List Expr → Option Nat
  | [] => some 0
  | part :: rest => do return (← part.maxSize?) + (← maxSizeSum? rest)

def maxSizeMost? : List Expr → Option Nat
  | [] => none
  | [branch] => branch.maxSize?
  | branch :: rest => do return max (← branch.maxSize?) (← maxSizeMost? rest)

end

mutual

def captures : Expr → Nat
  | .repeated _ _ _ body => body.captures
  | .group _ body => body.captures + 1
  | .concat parts => capturesAll parts
  | .alternation branches => capturesAll branches
  | _ => 0

def capturesAll : List Expr → Nat
  | [] => 0
  | expr :: rest => expr.captures + capturesAll rest

end

mutual

def nodes : Expr → Nat
  | .repeated _ _ _ body => body.nodes + 1
  | .group _ body => body.nodes + 1
  | .concat parts => nodesAll parts + 1
  | .alternation branches => nodesAll branches + 1
  | _ => 1

def nodesAll : List Expr → Nat
  | [] => 0
  | expr :: rest => expr.nodes + nodesAll rest

end

mutual

-- Two expressions are built in the same way.
def same : Expr → Expr → Bool
  | .empty, .empty => true
  | .literal a, .literal b => a == b
  | .set a, .set b => a == b
  | .look a, .look b => a == b
  | .repeated min max greedy a, .repeated min' max' greedy' b =>
      min == min' && max == max' && greedy == greedy' && same a b
  | .group i a, .group j b => i == j && same a b
  | .concat a, .concat b => sameAll a b
  | .alternation a, .alternation b => sameAll a b
  | _, _ => false

def sameAll : List Expr → List Expr → Bool
  | [], [] => true
  | a :: as, b :: bs => same a b && sameAll as bs
  | _, _ => false

end

def nothing : Expr := .set .empty

def ofText (text : Text) : Expr := if text.isEmpty then .empty else .literal text

def chars (set : CharSet) : Expr :=
  match set.single? with
  | some c => .literal [c]
  | none => .set set

-- A body that can only match the empty text is not repeated.
def repeat_ (min : Nat) (max : Option Nat) (greedy : Bool) (body : Expr) : Expr :=
  let isEmptyBody := body.maxSize? == some 0
  let min := if isEmptyBody then Nat.min min 1 else min
  let max := if isEmptyBody then some (Nat.min (max.getD 1) 1) else max
  if min = 0 ∧ max = some 0 then .empty
  else if min = 1 ∧ max = some 1 then body
  else .repeated min max greedy body

-- The parts of a sequence with the parts of inner sequences in their place.
def flattenConcat : List Expr → List Expr
  | [] => []
  | .concat inner :: rest => inner ++ flattenConcat rest
  | part :: rest => part :: flattenConcat rest

-- Joins neighbouring literals and drops what is empty; `pending` is the literal read so far.
def joinLiterals (pending : Text) : List Expr → List Expr
  | [] => if pending.isEmpty then [] else [.literal pending]
  | .literal text :: rest => joinLiterals (pending ++ text) rest
  | .empty :: rest => joinLiterals pending rest
  | part :: rest =>
      if pending.isEmpty then part :: joinLiterals [] rest
      else .literal pending :: part :: joinLiterals [] rest

def sequence (parts : List Expr) : Expr :=
  match joinLiterals [] (flattenConcat parts) with
  | [] => .empty
  | [part] => part
  | parts => .concat parts

def flattenAlternation : List Expr → List Expr
  | [] => []
  | .alternation inner :: rest => inner ++ flattenAlternation rest
  | branch :: rest => branch :: flattenAlternation rest

-- The set of the branches, if each is a literal of one character.
def singleChars? : List Expr → Option (List CharRange)
  | [] => some []
  | .literal [c] :: rest => (singleChars? rest).map (⟨c.toNat, c.toNat⟩ :: ·)
  | _ => none

-- The set of the branches, if each is a set.
def unionOfSets? : List Expr → Option (List CharRange)
  | [] => some []
  | .set chars :: rest => (unionOfSets? rest).map (chars.ranges ++ ·)
  | _ => none

-- Length of the longest start that two lists of parts share.
def sharedLength : List Expr → List Expr → Nat
  | a :: as, b :: bs => if same a b then sharedLength as bs + 1 else 0
  | _, _ => 0

def parts? : Expr → Option (List Expr)
  | .concat parts => some parts
  | _ => none

-- The start that all branches share, and what is left of each, if all are sequences and the
-- start is not empty.
def splitShared? (branches : List Expr) : Option (List Expr × List (List Expr)) := do
  match ← branches.mapM parts? with
  | [] => none
  | first :: rest =>
      let length := rest.foldl (fun n parts => Nat.min n (sharedLength first parts)) first.length
      if length = 0 then none
      else return (first.take length, (first :: rest).map (List.drop length))

-- A choice, tried in order. A shared start is taken out to the front; each time that happens the
-- branches get smaller.
def choiceWithin : (fuel : Nat) → List Expr → Expr
  | 0, branches => .alternation branches
  | fuel + 1, branches =>
      match flattenAlternation branches with
      | [] => nothing
      | [branch] => branch
      | branches =>
          match (singleChars? branches).or (unionOfSets? branches) with
          | some ranges => chars (.ofRanges ranges)
          | none => match splitShared? branches with
            | some (shared, rests) =>
                sequence (shared ++ [choiceWithin fuel (rests.map sequence)])
            | none => .alternation branches

def choice (branches : List Expr) : Expr := choiceWithin (nodesAll branches + 1) branches

end Expr

end StackLexer.Regex
