import StackLexer.Table
import StackLexer.Table.Error

namespace StackLexer

-- An entry whose rule is compiled and whose state is known.
inductive Slot where
  | rule (rule : Rule)
  | include (state : StateId)

namespace Slot

-- Rules of the states resolved so far.
abbrev Resolved := List (StateId × List Rule)

-- The states from the second meeting of `id` on, by name; `path` has the latest state first.
def cycleNames (names : List String) (path : List StateId) (id : StateId) : List String :=
  let around := id :: path.takeWhile (· != id) ++ [id]
  around.reverse.map fun state => names[state]?.getD ""

-- Adds the rules of one slot to those spliced so far; `included` gives the rules of a state.
def splice (included : StateId → Resolved → Except BuildError (List Rule × Resolved)) :
    List Rule × Resolved → Slot → Except BuildError (List Rule × Resolved)
  | (rules, resolved), .rule own => .ok (rules ++ [own], resolved)
  | (rules, resolved), .include target => do
      let (more, resolved) ← included target resolved
      return (rules ++ more, resolved)

-- The rules of a state. `path` holds the states being resolved, so it never has a state twice and
-- the number of states is enough fuel. A state is resolved once and its rules are kept; a state met
-- again while it is being resolved closes a cycle.
def resolve (grammar : String) (names : List String) (declared : List (List Slot)) :
    (fuel : Nat) → (path : List StateId) → StateId → Resolved →
      Except BuildError (List Rule × Resolved)
  | 0, _, _, resolved => .ok ([], resolved)
  | fuel + 1, path, id, resolved =>
      match resolved.lookup id with
      | some rules => .ok (rules, resolved)
      | none =>
          if path.contains id then .error (.includeCycle grammar (cycleNames names path id))
          else do
            let (rules, resolved) ← (declared[id]?.getD []).foldlM
              (splice (resolve grammar names declared fuel (id :: path))) ([], resolved)
            return (rules, (id, rules) :: resolved)

-- The rules of the states from number `id` on.
def resolveFrom (grammar : String) (names : List String) (declared : List (List Slot))
    (id : StateId) (resolved : Resolved) : List String → Except BuildError (List State)
  | [] => .ok []
  | name :: rest => do
      let (rules, resolved) ← resolve grammar names declared (names.length + 1) [] id resolved
      return ⟨name, rules⟩ :: (← resolveFrom grammar names declared (id + 1) resolved rest)

def resolveAll (grammar : String) (names : List String) (declared : List (List Slot)) :
    Except BuildError (List State) :=
  resolveFrom grammar names declared 0 [] names

end Slot

end StackLexer
