import StackLexer.Regex.Expr
import StackLexer.Regex.Weight.Sharing
import StackLexer.Regex.Weight.Trie

namespace StackLexer.Regex

namespace Expr

mutual

def beginsWith (look : Look) : Expr → Bool
  | .look other => other == look
  | .repeated min _ _ body => 0 < min && body.beginsWith look
  | .group _ body => body.beginsWith look
  | .concat parts => someBeginsWith look parts
  | .alternation branches => allBeginWith look branches
  | _ => false

def someBeginsWith (look : Look) : List Expr → Bool
  | [] => false
  | part :: rest =>
      part.beginsWith look || (part.maxSize? == some 0 && someBeginsWith look rest)

def allBeginWith (look : Look) : List Expr → Bool
  | [] => true
  | branch :: rest => branch.beginsWith look && allBeginWith look rest

end

mutual

def endsWith (look : Look) : Expr → Bool
  | .look other => other == look
  | .repeated min _ _ body => 0 < min && body.endsWith look
  | .group _ body => body.endsWith look
  | .concat parts => someEndsWith look parts
  | .alternation branches => allEndWith look branches
  | _ => false

def someEndsWith (look : Look) : List Expr → Bool
  | [] => false
  | part :: rest =>
      someEndsWith look rest ||
        (rest.all (fun part => part.maxSize? == some 0) && part.endsWith look)

def allEndWith (look : Look) : List Expr → Bool
  | [] => true
  | branch :: rest => branch.endsWith look && allEndWith look rest

end

-- The bytes of the branches, if they are all literals.
def literals? (branches : List Expr) : Option (List (List UInt8)) :=
  branches.mapM fun
    | .literal text => some (text.flatMap String.utf8EncodeChar)
    | _ => none

def addLoop (min : Nat) (isEmptyBody : Bool) (body : Tally → Tally) (tally : Tally) : Tally :=
  match min with
  | 0 =>
      if isEmptyBody then (((body tally).addUnion 2).addUnion 2).addStates 1
      else body (tally.addUnion 2)
  | count => (tally.repeated count body).addUnion 2

-- The copies past the least number, each of which can be left out.
def addOptional (count : Nat) (body : Tally → Tally) (tally : Tally) : Tally :=
  tally.repeated count fun tally => body (tally.addUnion 2)

mutual

-- The states of an expression. Automata work on bytes, and every repetition is written out.
def addTo (isReverse : Bool) : Expr → Tally → Tally
  | .empty, tally => tally.addStates 1
  | .literal text, tally => tally.addStates text.size
  | .set chars, tally => tally.addSet isReverse chars
  | .look _, tally => tally.addStates 1
  | .repeated min max _ body, tally =>
      let copy (tally : Tally) : Tally := addTo isReverse body tally
      match max with
      | none => addLoop min (body.minSize?.all (· == 0)) copy tally
      | some max =>
          if min = 0 ∧ max = 1 then (copy (tally.addUnion 2)).addStates 1
          else
            let tally := if min = 0 then tally.addStates 1 else tally.repeated min copy
            if min = max then tally else addOptional (max - min) copy (tally.addStates 1)
  | .group _ body, tally =>
      if isReverse then addTo isReverse body tally
      else (addTo isReverse body (tally.addStates 1)).addStates 1
  | .concat parts, tally => addParts isReverse parts tally
  | .alternation branches, tally => match literals? branches with
      | some literals => tally.addLiterals literals
      | none => addBranches isReverse branches.length 0 branches tally

-- In reverse the last part comes first.
def addParts (isReverse : Bool) : List Expr → Tally → Tally
  | [], tally => tally
  | part :: rest, tally =>
      if tally.isTooLarge then tally
      else if isReverse then addTo isReverse part (addParts isReverse rest tally)
      else addParts isReverse rest (addTo isReverse part tally)

-- The states that the branches begin and end at are made behind the second one.
def addBranches (isReverse : Bool) (count index : Nat) : List Expr → Tally → Tally
  | [], tally => tally
  | branch :: rest, tally =>
      let tally := addTo isReverse branch tally
      let tally := if index = 1 then (tally.addUnion count).addStates 1 else tally
      addBranches isReverse count (index + 1) rest tally

end

-- The states in front of a pattern: a search may begin anywhere, unless a match cannot.
def searchStates (isAnchored : Bool) : Tally :=
  if isAnchored then Tally.empty.addStates 1
  else ((Tally.empty.addUnion 2).addStates 1).addBytes 1

-- The automaton that reads forwards has states for the start and the end of the whole match.
def forwardTally (expr : Expr) : Tally :=
  (addTo false expr ((searchStates (expr.beginsWith .textStart)).addStates 1)).addStates 2

def reverseTally (expr : Expr) : Tally :=
  (addTo true expr (searchStates (expr.endsWith .textEnd))).addStates 1

-- A long list of words is looked up without an automaton.
def isWordList : Expr → Bool
  | .alternation branches => 3000 ≤ branches.length && (literals? branches).isSome
  | _ => false

-- A pattern is refused if one of its automata would be too large: the one that reads forwards and
-- keeps track of groups, or the one that reads backwards. They are not built for that, only
-- counted.
def isTooLarge (expr : Expr) : Bool :=
  !expr.isWordList && (expr.forwardTally.isTooLarge || expr.reverseTally.isTooLarge)

end Expr

end StackLexer.Regex
