import StackLexer.Options
import StackLexer.Table.Build

namespace StackLexer

-- Tables that may delegate to each other by name or alias.
structure TableSet where
  tables : List Table
  index : List (String × TableId)
  options : Options

-- Where a delegation leads: a table, and the state pushed above its root.
structure Target where
  table : TableId
  state? : Option StateId
deriving DecidableEq, Repr

namespace TableSet

def id? (set : TableSet) (name : String) : Option TableId := set.index.lookup name

def table? (set : TableSet) (id : TableId) : Option Table := set.tables[id]?

def get? (set : TableSet) (name : String) : Option Table := (set.id? name).bind set.table?

-- The table that a rule of the table `current` names.
def named? (set : TableSet) (current : TableId) : LexerName → Option TableId
  | .this => some current
  | .named name => set.id? name

-- Where a delegation of the table `current` leads.
def lookup? (set : TableSet) (current : TableId) (delegation : Delegation) : Option Target := do
  let id ← set.named? current delegation.target
  match delegation.state? with
  | none => return ⟨id, none⟩
  | some name => return ⟨id, some (← (← set.table? id).stateId? name)⟩

-- Names of the grammars from number `id` on, added to those taken.
def indexNames (id : TableId) (taken : List (String × TableId)) :
    List String → Except BuildError (List (String × TableId))
  | [] => .ok taken
  | name :: rest =>
      if (taken.lookup name).isSome then .error (.duplicateLexer name)
      else indexNames id (taken ++ [(name, id)]) rest

def indexFrom (id : TableId) (taken : List (String × TableId)) :
    List Grammar → Except BuildError (List (String × TableId))
  | [] => .ok taken
  | grammar :: rest => do indexFrom (id + 1) (← indexNames id taken grammar.names) rest

def compileFrom (id : TableId) : List Grammar → Except BuildError (List Table)
  | [] => .ok []
  | grammar :: rest => do return (← grammar.compile id) :: (← compileFrom (id + 1) rest)

-- The target of the delegation exists, and so does its state.
def checkDelegation (set : TableSet) (table : Table) (delegation : Delegation) :
    Except BuildError Unit := do
  let target ← match delegation.target with
    | .this => .ok table
    | .named name => match set.get? name with
      | some target => .ok target
      | none => .error (.unknownLexer table.name name)
  match delegation.state? with
  | none => .ok ()
  | some state =>
      if (target.stateId? state).isSome then .ok ()
      else .error (.unknownDelegationState table.name target.name state)

-- Names are checked first, then each grammar on its own, then the delegations between them.
def build (grammars : List Grammar) (options : Options) : Except BuildError TableSet := do
  let index ← indexFrom 0 [] grammars
  let tables ← compileFrom 0 grammars
  let set : TableSet := ⟨tables, index, options⟩
  tables.forM fun table => table.delegations.forM (set.checkDelegation table)
  return set

end TableSet

end StackLexer
