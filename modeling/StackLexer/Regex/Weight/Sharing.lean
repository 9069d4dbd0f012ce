import StackLexer.Regex.Weight.Tally
import StackLexer.Unicode.Utf8
import Std.Data.HashMap

namespace StackLexer.Regex

-- A way to the state `target`.
structure Edge where
  bytes : ByteRange
  target : Nat
deriving DecidableEq, Repr

namespace Edge

def mix (hash word : UInt64) : UInt64 := (hash ^^^ word) * 1099511628211

def mixStart : UInt64 := 14695981039346656037

-- The slot of a state in a table of `size` slots.
def slot (size : UInt64) (edges : List Edge) : UInt64 :=
  let mixed := edges.foldl (fun hash edge =>
    mix (mix (mix hash edge.bytes.lo.toUInt64) edge.bytes.hi.toUInt64) edge.target.toUInt64)
    mixStart
  mixed % size

-- The same for a state with one edge, by its target first.
def reverseSlot (size : UInt64) (edge : Edge) : UInt64 :=
  mix (mix (mix mixStart edge.target.toUInt64) edge.bytes.lo.toUInt64) edge.bytes.hi.toUInt64 % size

end Edge

-- The states made so far, by slot, and what they take up. States that would be alike are made once.
-- As a table has a fixed size, a later state takes the place of an earlier one that has the same
-- slot; so a few states are made more than once, and how many depends on the numbers that the
-- states get.
structure Sharing where
  table : Std.HashMap UInt64 (List Edge × Nat)
  tally : Tally

namespace Sharing

abbrev Making (α : Type) := StateM Sharing α

-- The state of a slot with these edges, which `add` makes unless it is there.
def state (slot : UInt64) (edges : List Edge) (add : Tally → Tally) : Making Nat := do
  let sharing ← get
  let known := match sharing.table[slot]? with
    | some (others, known) => if others = edges then some known else none
    | none => none
  match known with
  | some known => return known
  | none => do
      let made := sharing.tally.states
      set (Sharing.mk (sharing.table.insert slot (edges, made)) (add sharing.tally))
      return made

-- A state that is still open: edges that are known, last one first, and the bytes of an edge to the
-- open state after it.
structure OpenState where
  edges : List Edge
  last? : Option ByteRange

-- The edges of the first of some open states, when no more come.
def close (goal : Nat) : List OpenState → Making (List Edge)
  | [] => return []
  | ⟨edges, none⟩ :: _ => return edges.reverse
  | ⟨edges, some bytes⟩ :: rest => do
      if rest.isEmpty then return (⟨bytes, goal⟩ :: edges).reverse
      else
        let next ← close goal rest
        let target ← state (Edge.slot 10000 next) next (Tally.addBytes next.length)
        return (⟨bytes, target⟩ :: edges).reverse

-- The number of bytes at the start of a string that the open states end with.
def sharedLength : List ByteRange → List OpenState → Nat
  | bytes :: string, state :: rest =>
      if state.last? = some bytes then sharedLength string rest + 1 else 0
  | _, _ => 0

-- Adds a string. The open states that it does not share are closed.
def addString (goal : Nat) (states : List OpenState) (string : List ByteRange) :
    Making (List OpenState) := do
  let shared := sharedLength string states
  let edges ← close goal (states.drop shared)
  let opened := match string.drop shared with
    | [] => []
    | bytes :: rest => ⟨edges.reverse, some bytes⟩ :: rest.map fun bytes => ⟨[], some bytes⟩
  return states.take shared ++ opened

-- The states that read a set forwards, so that ends are shared.
def forwards (strings : List (List ByteRange)) : Making Unit := do
  let goal := (← get).tally.states
  modify fun sharing => { sharing with tally := sharing.tally.addStates 1 }
  let states ← strings.foldlM (addString goal) [⟨[], none⟩]
  let edges ← close goal states
  let _ ← state (Edge.slot 10000 edges) edges (Tally.addBytes edges.length)

-- The states for one string that is read backwards, from the last of them.
def backString (goal : Nat) (string : List ByteRange) : Making Unit := do
  let _ ← string.foldlM (fun target bytes =>
    let edge : Edge := ⟨bytes, target⟩
    state (Edge.reverseSlot 1000 edge) [edge] (Tally.addStates 1)) goal

-- The states that read a set backwards. There is one way in for each string.
def backwards (strings : List (List ByteRange)) : Making Unit := do
  let goal := (← get).tally.states + 1
  modify fun sharing =>
    { sharing with tally := (sharing.tally.addUnion strings.length).addStates 1 }
  for string in strings do backString goal string

end Sharing

-- Adds the states of a set to what is there.
def Tally.addSet (isReverse : Bool) (set : CharSet) (tally : Tally) : Tally :=
  if set.isAscii then (tally.addStates 1).addBytes set.ranges.length
  else
    let making :=
      if isReverse then Sharing.backwards set.byteStrings else Sharing.forwards set.byteStrings
    (making.run ⟨∅, tally⟩).2.tally

end StackLexer.Regex
