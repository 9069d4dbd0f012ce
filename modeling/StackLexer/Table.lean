import StackLexer.Grammar
import StackLexer.Stack

namespace StackLexer

abbrev TableId := Nat

-- Where a delegation was declared. Rules keep the place when they are included elsewhere.
structure HandleKey where
  table : TableId
  state : StateId
  entry : Nat
  part : Nat
deriving DecidableEq, Repr

structure Handle where
  key : HandleKey
  delegation : Delegation
deriving DecidableEq, Repr

-- `origin` is the state that declared the rule.
structure Rule where
  pattern : Pattern
  action : Action Handle
  ops : List Op
  origin : StateId

structure State where
  name : String
  rules : List Rule

-- A grammar in the form that a scan runs: patterns are compiled, states are numbered in the order
-- of their names, and every state has one flat list of rules.
structure Table where
  name : String
  aliases : List String
  flags : MatchFlags
  states : List State
  root : StateId
  delegations : List Delegation

namespace Table

def state? (table : Table) (id : StateId) : Option State := table.states[id]?

def stateId? (table : Table) (name : String) : Option StateId :=
  table.states.findIdx? fun state => state.name == name

-- The name of a state, empty for a number that is not one of the table's.
def stateName (table : Table) (id : StateId) : String :=
  match table.state? id with
  | some state => state.name
  | none => ""

def ruleCount (table : Table) : Nat :=
  (table.states.map fun state => state.rules.length).foldr (· + ·) 0

end Table

end StackLexer
