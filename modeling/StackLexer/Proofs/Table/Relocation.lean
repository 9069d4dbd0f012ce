import StackLexer.Proofs.Table.Construction

namespace StackLexer

section Map

variable {δ ε ζ : Type}

def Part.map (f : δ → ε) : Part δ → Part ε
  | .kind own => .kind own
  | .delegate delegation => .delegate (f delegation)

def Action.map (f : δ → ε) : Action δ → Action ε
  | .token kind => .token kind
  | .groups parts => .groups (parts.map (Part.map f))
  | .delegate delegation => .delegate (f delegation)
  | .callback call => .callback call

theorem Action.map_mapDelegations (action : Action δ) (f : Nat → δ → ε) (g : ε → ζ) :
    (action.mapDelegations f).map g = action.mapDelegations fun part delegation =>
      g (f part delegation) := by
  cases action with
  | token kind => rfl
  | delegate delegation => rfl
  | callback call => rfl
  | groups parts =>
      rw [mapDelegations, map, mapDelegations, List.mapIdx_eq_zipIdx_map,
        List.mapIdx_eq_zipIdx_map, List.map_map]
      congr 1
      apply List.map_congr_left
      rintro ⟨part, index⟩ -
      cases part <;> rfl

end Map

-- The same with the number of another table.
def Handle.moveTo (id : TableId) (handle : Handle) : Handle :=
  { handle with key := { handle.key with table := id } }

def Rule.moveTo (id : TableId) (rule : Rule) : Rule :=
  { rule with action := rule.action.map (Handle.moveTo id) }

def State.moveTo (id : TableId) (state : State) : State :=
  { state with rules := state.rules.map (Rule.moveTo id) }

-- The table `table'` is what `table` would be in place `id`.
structure Table.Moved (id : TableId) (table table' : Table) : Prop where
  root : table'.root = table.root
  state? : ∀ i, table'.state? i = (table.state? i).map (State.moveTo id)

namespace Grammar

variable {grammar : Grammar} {id id' : TableId}

theorem compileRule_moveTo {state : String} {origin : StateId} {place : Nat} {decl : RuleDecl}
    {rule : Rule} (h : grammar.compileRule id state origin place decl = .ok rule) (id' : TableId) :
    grammar.compileRule id' state origin place decl = .ok (rule.moveTo id') := by
  obtain ⟨pattern, hpattern, h⟩ := bind_eq_ok.mp h
  obtain ⟨ops, hops, h⟩ := bind_eq_ok.mp h
  obtain ⟨checked, hgroups, h⟩ := bind_eq_ok.mp h
  apply bind_eq_ok.mpr
  refine ⟨pattern, hpattern, bind_eq_ok.mpr ⟨ops, hops, bind_eq_ok.mpr ⟨checked, hgroups, ?_⟩⟩⟩
  split at h
  · contradiction
  · rename_i hmoves
    obtain rfl := pure_eq_ok.mp h
    rw [if_neg hmoves, Rule.moveTo, Action.map_mapDelegations]
    rfl

theorem Compiles.moveTo {source : Source} {rule : Rule} (h : grammar.Compiles id source rule)
    (id' : TableId) : grammar.Compiles id' source (rule.moveTo id') := by
  obtain ⟨name, decl, hname, hdecl, hrule⟩ := h
  exact ⟨name, decl, hname, hdecl, compileRule_moveTo hrule id'⟩

theorem Expands.moveTo {sources : List Source} {rules : List Rule}
    (h : grammar.Expands id sources rules) (id' : TableId) :
    grammar.Expands id' sources (rules.map (Rule.moveTo id')) := by
  induction h with
  | nil => exact .nil
  | rule hown _ ih => exact .rule (hown.moveTo id') ih
  | «include» hentry hnumber _ _ ihmore ih =>
      rw [List.map_append]
      exact .include hentry hnumber ihmore ih

namespace TableAs

variable {table table' : Table}

theorem name? (h : grammar.TableAs id table) {i : StateId} {state : State}
    (hstate : table.state? i = some state) : grammar.stateNames[i]? = some state.name := by
  rw [← h.states, List.getElem?_map]
  exact congrArg (Option.map State.name) hstate

-- All that tells the tables of one grammar apart is the number of the table in the keys of its
-- delegations.
theorem moved (h : grammar.TableAs id table) (h' : grammar.TableAs id' table') :
    table.Moved id' table' where
  root := h'.root.unique h.root
  state? i := by
    have hlength : table'.states.length = table.states.length :=
      h'.states_length.trans h.states_length.symm
    cases hstate : table.state? i with
    | none =>
        rw [Option.map_none]
        apply List.getElem?_eq_none
        rw [hlength]
        exact List.getElem?_eq_none_iff.mp hstate
    | some state =>
        obtain ⟨hlt, -⟩ := List.getElem?_eq_some_iff.mp hstate
        obtain ⟨state', hstate'⟩ : ∃ state', table'.state? i = some state' :=
          ⟨_, List.getElem?_eq_getElem (hlength ▸ hlt)⟩
        have hname : state'.name = state.name :=
          Option.some.inj ((h'.name? hstate').symm.trans (h.name? hstate))
        have hrules : state'.rules = state.rules.map (Rule.moveTo id') :=
          (h'.expands i state' hstate').unique ((h.expands i state hstate).moveTo id')
        obtain ⟨name', rules'⟩ := state'
        obtain rfl : name' = state.name := hname
        obtain rfl : rules' = state.rules.map (Rule.moveTo id') := hrules
        exact hstate'

end TableAs

end Grammar

end StackLexer
