namespace StackLexer

abbrev StateId := Nat

-- A stack operation whose state is resolved.
inductive Op where
  | push (state : StateId)
  | pushCurrent
  | pop (count : Nat)
deriving DecidableEq, Repr

-- The bottom frame is fixed when a scan starts and is never removed, so there is always a current
-- state. `above` holds the frames over the bottom one, the top frame first.
structure StateStack where
  root : StateId
  above : List StateId
deriving DecidableEq, Repr

namespace StateStack

def new (root : StateId) : StateStack := ⟨root, []⟩

def top (stack : StateStack) : StateId := stack.above.headD stack.root

def push (stack : StateStack) (state : StateId) : StateStack :=
  ⟨stack.root, state :: stack.above⟩

-- Frames that a pop of `count` takes away.
def removable (stack : StateStack) (count : Nat) : Nat := min count stack.above.length

-- Removes up to `count` frames and stops at the bottom one.
def pop (stack : StateStack) (count : Nat) : StateStack :=
  ⟨stack.root, stack.above.drop count⟩

def depth (stack : StateStack) : Nat := stack.above.length + 1

def frames (stack : StateStack) : List StateId := stack.root :: stack.above.reverse

def step (stack : StateStack) : Op → StateStack
  | .push state => stack.push state
  | .pushCurrent => stack.push stack.top
  | .pop count => stack.pop count

-- No pop of the operation asks for the bottom frame.
def allows (stack : StateStack) : Op → Bool
  | .pop count => decide (count ≤ stack.above.length)
  | _ => true

-- Applies the operations in order. The flag is false when a pop stopped at the bottom frame.
def apply (stack : StateStack) : List Op → StateStack × Bool
  | [] => (stack, true)
  | op :: ops =>
      let (final, exact) := apply (stack.step op) ops
      (final, stack.allows op && exact)

def debug (stack : StateStack) : String :=
  let id (state : StateId) : String := s!"StateId({state})"
  s!"StateStack \x7b root: {id stack.root}, above: [" ++
    ", ".intercalate (stack.above.reverse.map id) ++ "] \x7d"

end StateStack

end StackLexer
