import StackLexer.Regex.Weight.Tally
import StackLexer.Text

namespace StackLexer.Regex

-- Literals put together by the bytes that they start with. Where one of them ends, the choice it
-- stands for comes between those of the literals before and after it, so the ways out of a state
-- are kept in runs with an end between any two. `runs` are those before the last end, the newest
-- one first.
inductive Trie where
  | node (runs : List (List (UInt8 × Trie))) (last : List (UInt8 × Trie))

namespace Trie

def empty : Trie := .node [] []

def addEnd : Trie → Trie
  | .node runs last =>
      if runs.all List.isEmpty && last.isEmpty && !runs.isEmpty then .node runs last
      else .node (last :: runs) []

def replaceFirst (byte : UInt8) (trie : Trie) : List (UInt8 × Trie) → List (UInt8 × Trie)
  | [] => []
  | (b, old) :: rest =>
      if b = byte then (b, trie) :: rest else (b, old) :: replaceFirst byte trie rest

def add : List UInt8 → Trie → Trie
  | [], trie => trie.addEnd
  | byte :: rest, .node runs last =>
      match last.lookup byte with
      | some inner => .node runs (replaceFirst byte (add rest inner) last)
      | none => .node runs ((byte, add rest empty) :: last)

def isLeaf : Trie → Bool
  | .node runs last => runs.all List.isEmpty && last.isEmpty

-- A state for the ways out of a run.
def addRun (run : List (UInt8 × Trie)) (tally : Tally) : Tally :=
  match run.length with
  | 0 => tally
  | 1 => tally.addStates 1
  | count => tally.addBytes count

mutual

-- The states of a trie. A leaf has none, because its end is the one they all share.
def addStates (tally : Tally) : Trie → Tally
  | .node runs last =>
      if (Trie.node runs last).isLeaf then tally
      else
        let tally := addAll (addRun last (addEach tally last)) runs
        let ways := ((last :: runs).filter fun run => !run.isEmpty).length + runs.length
        if ways = 1 then tally else tally.addUnion ways

def addAll (tally : Tally) : List (List (UInt8 × Trie)) → Tally
  | [] => tally
  | run :: rest => addAll (addRun run (addEach tally run)) rest

def addEach (tally : Tally) : List (UInt8 × Trie) → Tally
  | [] => tally
  | (_, trie) :: rest => addEach (addStates tally trie) rest

end

end Trie

-- Adds the states of a choice between literals, which are given by their bytes.
def Tally.addLiterals (literals : List (List UInt8)) (tally : Tally) : Tally :=
  (literals.foldl (fun trie literal => trie.add literal) Trie.empty).addStates (tally.addStates 1)

end StackLexer.Regex
