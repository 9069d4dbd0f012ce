namespace StackLexer.Regex

-- What an automaton takes up: the number of its states, and the bytes of the lists that states with
-- more than one way out have. States are numbered in the order in which they are made, so the
-- number of states made so far is also the number of the next one.
structure Tally where
  states : Nat
  listBytes : Nat
deriving DecidableEq, Repr

namespace Tally

def empty : Tally := ⟨0, 0⟩

def stateBytes : Nat := 32

def bytes (tally : Tally) : Nat := stateBytes * tally.states + tally.listBytes

def maxBytes : Nat := 10 * Nat.pow 2 20

def isTooLarge (tally : Tally) : Bool := maxBytes < tally.bytes

def addStates (count : Nat) (tally : Tally) : Tally :=
  { tally with states := tally.states + count }

-- A state that goes on at any of `ways` others.
def addUnion (ways : Nat) (tally : Tally) : Tally :=
  ⟨tally.states + 1, tally.listBytes + 4 * ways⟩

-- A state that reads a byte of any of `ranges` ranges.
def addBytes (ranges : Nat) (tally : Tally) : Tally :=
  ⟨tally.states + 1, tally.listBytes + 8 * ranges⟩

-- Counts the same part again and again, as long as the automaton is not too large.
def repeated (count : Nat) (add : Tally → Tally) (tally : Tally) : Tally :=
  match count with
  | 0 => tally
  | count + 1 => if tally.isTooLarge then tally else repeated count add (add tally)

end Tally

end StackLexer.Regex
