import StackLexer.Table.Include

namespace StackLexer

namespace Grammar

-- The number of a state that the state `source` refers to.
def stateId (grammar : Grammar) (source state : String) : Except BuildError StateId :=
  match grammar.stateNames.findIdx? (· == state) with
  | some id => .ok id
  | none => .error (.unknownState grammar.name source state)

def compilePattern (grammar : Grammar) (state source : String) : Except BuildError Pattern :=
  match Pattern.compile source grammar.flags with
  | .ok pattern => .ok pattern
  | .error error => .error (.invalidPattern grammar.name state source error.message)

def compileOp (grammar : Grammar) (state pattern : String) : StackOp → Except BuildError Op
  | .push target => Op.push <$> grammar.stateId state target
  | .pushCurrent => .ok .pushCurrent
  | .pop 0 => .error (.zeroPop grammar.name state pattern)
  | .pop (n + 1) => .ok (.pop (n + 1))

-- No part of the action lacks a group of the pattern.
def checkGroups (grammar : Grammar) (state : String) (rule : RuleDecl) (pattern : Pattern) :
    Except BuildError Unit :=
  match rule.action with
  | .groups parts =>
      if pattern.groupCount < parts.length then
        .error (.groupCountMismatch grammar.name state rule.pattern parts.length
          pattern.groupCount)
      else .ok ()
  | _ => .ok ()

-- `table` is the place of the grammar in its set, and `entry` that of the rule in its state. A rule
-- is checked in this order: its pattern, its transition, the number of its groups, and that it
-- changes the stack if it can match the empty text.
def compileRule (grammar : Grammar) (table : TableId) (state : String) (origin : StateId)
    (entry : Nat) (rule : RuleDecl) : Except BuildError Rule := do
  let pattern ← grammar.compilePattern state rule.pattern
  let ops ← rule.transition.ops.mapM (grammar.compileOp state rule.pattern)
  grammar.checkGroups state rule pattern
  if ops.isEmpty && pattern.matchesEmpty then
    .error (.emptyMatchWithoutTransition grammar.name state rule.pattern)
  else
    return {
      pattern := pattern
      action := rule.action.mapDelegations fun part delegation =>
        ⟨⟨table, origin, entry, part⟩, delegation⟩
      ops := ops
      origin := origin }

def compileEntry (grammar : Grammar) (table : TableId) (state : String) (origin : StateId)
    (place : Nat) : Entry → Except BuildError Slot
  | .rule definition => Slot.rule <$> grammar.compileRule table state origin place definition
  | .default transition =>
      Slot.rule <$> grammar.compileRule table state origin place (.ofDefault transition)
  | .include target => Slot.include <$> grammar.stateId state target

-- The entries of a state from number `place` on.
def compileEntries (grammar : Grammar) (table : TableId) (state : String) (origin : StateId)
    (place : Nat) : List Entry → Except BuildError (List Slot)
  | [] => .ok []
  | entry :: rest => do
      let slot ← grammar.compileEntry table state origin place entry
      return slot :: (← grammar.compileEntries table state origin (place + 1) rest)

-- The states from number `id` on.
def compileStates (grammar : Grammar) (table : TableId) (id : StateId) :
    List (String × List Entry) → Except BuildError (List (List Slot))
  | [] => .ok []
  | (name, entries) :: rest => do
      let slots ← grammar.compileEntries table name id 0 entries
      return slots :: (← grammar.compileStates table (id + 1) rest)

-- Includes are spliced after every rule has been compiled.
def compile (grammar : Grammar) (table : TableId) : Except BuildError Table :=
  match grammar.stateNames.findIdx? (· == rootName) with
  | none => .error (.missingRoot grammar.name)
  | some root => do
      let declared ← grammar.compileStates table 0 grammar.states
      let states ← Slot.resolveAll grammar.name grammar.stateNames declared
      return {
        name := grammar.name
        aliases := grammar.aliases
        flags := grammar.flags
        states := states
        root := root
        delegations := grammar.delegations }

end Grammar

end StackLexer
