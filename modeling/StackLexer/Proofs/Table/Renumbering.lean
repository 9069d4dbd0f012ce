import StackLexer.Proofs.Table.Recast
import StackLexer.Proofs.Table.Renaming

namespace StackLexer

def Op.renumber (numbers : StateId → StateId) : Op → Op
  | .push state => .push (numbers state)
  | .pushCurrent => .pushCurrent
  | .pop count => .pop count

def Handle.renumber (numbers : StateId → StateId) (labels : Labels) (handle : Handle) : Handle :=
  ⟨{ handle.key with state := numbers handle.key.state }, handle.delegation.rename labels⟩

def Rule.renumber (numbers : StateId → StateId) (labels : Labels) (rule : Rule) : Rule where
  pattern := rule.pattern
  action := rule.action.map (Handle.renumber numbers labels)
  ops := rule.ops.map (Op.renumber numbers)
  origin := numbers rule.origin

def Target.renumber (numbers : TableId → StateId → StateId) (target : Target) : Target :=
  { target with state? := target.state?.map (numbers target.table) }

-- The states of one table under the numbers that they have in the other.
structure Table.Renumbered (numbers : StateId → StateId) (labels : Labels) (table table' : Table) :
    Prop where
  root : table'.root = numbers table.root
  state? : ∀ i state, table.state? i = some state →
    ∃ state', table'.state? (numbers i) = some state' ∧
      state'.rules = state.rules.map (Rule.renumber numbers labels)

structure TableSet.Renumbered (numbers : TableId → StateId → StateId) (labels : TableId → Labels)
    (set set' : TableSet) : Prop where
  options : set'.options = set.options
  length : set'.tables.length = set.tables.length
  table? : ∀ id table, set.table? id = some table →
    ∃ table', set'.table? id = some table' ∧ table.Renumbered (numbers id) (labels id) table'
  lookup? : ∀ id delegation, set'.lookup? id (delegation.rename (labels id)) =
    (set.lookup? id delegation).map (Target.renumber numbers)

theorem Action.mapDelegations_map {δ ε ζ : Type} (action : Action δ) (f : δ → ε) (g : Nat → ε → ζ) :
    (action.map f).mapDelegations g = action.mapDelegations fun part delegation =>
      g part (f delegation) := by
  cases action with
  | token kind => rfl
  | delegate delegation => rfl
  | callback call => rfl
  | groups parts =>
      rw [mapDelegations, map, mapDelegations, List.mapIdx_eq_zipIdx_map,
        List.mapIdx_eq_zipIdx_map, List.zipIdx_map, List.map_map]
      congr 1
      apply List.map_congr_left
      rintro ⟨part, index⟩ -
      cases part <;> rfl

namespace Grammar

variable {grammar grammar' : Grammar} {labels : Labels} {id : TableId}

-- The number of a state under its new name.
def renumber (labels : Labels) (grammar grammar' : Grammar) (i : StateId) : StateId :=
  (grammar.stateNames[i]?.bind fun name =>
    grammar'.stateNames.findIdx? (· == labels .this name)).getD i

def Source.renumber (numbers : StateId → StateId) (labels : Labels) (source : Source) : Source :=
  ⟨numbers source.state, source.place, source.entry.rename labels⟩

namespace Renamed

theorem numbers (h : grammar.Renamed labels grammar') {name : String} {i : StateId}
    (hi : grammar.Numbers name i) :
    grammar'.Numbers (labels .this name) (grammar.renumber labels grammar' i) := by
  obtain ⟨j, hj⟩ := exists_numbers (h.mem_stateNames.mpr hi.mem)
  have hrenumber : grammar.renumber labels grammar' i = j := by
    rw [renumber, hi.name?, Option.bind_some, show _ = some j from hj, Option.getD_some]
  rw [hrenumber]
  exact hj

theorem findIdx?_eq (h : grammar.Renamed labels grammar') (name : String) :
    grammar'.stateNames.findIdx? (· == labels .this name) =
      (grammar.stateNames.findIdx? (· == name)).map (grammar.renumber labels grammar') := by
  cases hfind : grammar.stateNames.findIdx? (· == name) with
  | some i => exact h.numbers hfind
  | none =>
      have hmem : labels .this name ∉ grammar'.stateNames := by
        intro hmem
        obtain ⟨i, hi⟩ := exists_numbers (h.mem_stateNames.mp hmem)
        rw [Numbers, hfind] at hi
        contradiction
      rw [Option.map_none, List.findIdx?_eq_none_iff]
      intro other hother
      exact beq_false_of_ne fun heq => hmem (heq ▸ hother)

-- A state stands where its new number says.
theorem state? (h : grammar.Renamed labels grammar') {i : StateId} {state : String × List Entry}
    (hstate : grammar.states[i]? = some state) :
    grammar'.states[grammar.renumber labels grammar' i]? = some (renameState labels state) := by
  have hmem : renameState labels state ∈ grammar'.states :=
    h.states.mem_iff.mpr (List.mem_map_of_mem (List.mem_of_getElem? hstate))
  obtain ⟨j, hj⟩ := List.mem_iff_getElem?.mp hmem
  have hnumber : grammar'.Numbers (labels .this state.1) j := numbers_of_state hj
  have hrenumber := h.numbers (numbers_of_state hstate)
  rw [hrenumber.unique hnumber]
  exact hj

theorem sources (h : grammar.Renamed labels grammar') {i : StateId} {state : String × List Entry}
    (hstate : grammar.states[i]? = some state) :
    grammar'.sources (grammar.renumber labels grammar' i) =
      (grammar.sources i).map (Source.renumber (grammar.renumber labels grammar') labels) := by
  rw [Grammar.sources, Grammar.sources, h.state? hstate, hstate]
  simp only [renameState, sourcesFrom, List.zipIdx_map, List.map_map]
  rfl

theorem opAs (h : grammar.Renamed labels grammar') {stackOp : StackOp} {op : Op}
    (hop : grammar.OpAs stackOp op) :
    grammar'.OpAs (stackOp.rename labels) (op.renumber (grammar.renumber labels grammar')) := by
  cases hop with
  | push hnumber => exact .push (h.numbers hnumber)
  | pushCurrent => exact .pushCurrent
  | pop hcount => exact .pop hcount

theorem ruleAs (h : grammar.Renamed labels grammar') {origin : StateId} {place : Nat}
    {decl : RuleDecl} {rule : Rule} (hrule : grammar.RuleAs id origin place decl rule) :
    grammar'.RuleAs id (grammar.renumber labels grammar' origin) place (decl.rename labels)
      (rule.renumber (grammar.renumber labels grammar') labels) where
  pattern := by
    rw [h.flags]
    exact hrule.pattern
  ops := by
    apply List.forall₂_map_left_iff.mpr
    apply List.forall₂_map_right_iff.mpr
    exact hrule.ops.imp fun _ _ hop => h.opAs hop
  action := by
    rw [Rule.renumber, RuleDecl.rename, hrule.action, Action.map_mapDelegations,
      Action.mapDelegations_map]
    rfl
  groups parts' haction := by
    obtain ⟨parts, hown, rfl⟩ := Action.map_eq_groups.mp haction
    rw [List.length_map]
    exact hrule.groups parts hown
  moves hnil := hrule.moves (List.map_eq_nil_iff.mp hnil)
  origin := congrArg (grammar.renumber labels grammar') hrule.origin

theorem compiles (h : grammar.Renamed labels grammar') {source : Source} {rule : Rule}
    (hrule : grammar.Compiles id source rule) :
    grammar'.Compiles id (source.renumber (grammar.renumber labels grammar') labels)
      (rule.renumber (grammar.renumber labels grammar') labels) := by
  obtain ⟨name, decl, hname, hdecl, hcompile⟩ := hrule
  have hrule' := h.ruleAs (RuleAs.of_compileRule hcompile)
  refine ⟨labels .this name, decl.rename labels, ?_, ?_, hrule'.compileRule_eq _⟩
  · exact (h.numbers (numbers_of_name hname)).name?
  · rw [Source.renumber, Entry.rename_rule?, hdecl]
    rfl

-- By induction on the expansion: an include goes on with the renamed entries of its target.
theorem expands (h : grammar.Renamed labels grammar') {sources : List Source} {rules : List Rule}
    (hrules : grammar.Expands id sources rules) :
    grammar'.Expands id (sources.map (Source.renumber (grammar.renumber labels grammar') labels))
      (rules.map (Rule.renumber (grammar.renumber labels grammar') labels)) := by
  induction hrules with
  | nil => exact .nil
  | rule hown _ ih => exact .rule (h.compiles hown) ih
  | @«include» source rest target number more rules hentry hnumber _ _ ihmore ih =>
      obtain ⟨state, hstate⟩ : ∃ state, grammar.states[number]? = some state :=
        ⟨_, List.getElem?_eq_getElem hnumber.lt⟩
      rw [← h.sources hstate] at ihmore
      have hentry' : (source.entry.rename labels) = .include (labels .this target) := by
        rw [hentry]
        rfl
      rw [List.map_append]
      exact .include hentry' (h.numbers hnumber) ihmore ih

theorem tables (h : grammar.Renamed labels grammar') {table table' : Table}
    (has : grammar.TableAs id table) (has' : grammar'.TableAs id table') :
    table.Renumbered (grammar.renumber labels grammar') labels table' where
  root := by
    have hroot := h.numbers has.root
    rw [h.root] at hroot
    exact has'.root.unique hroot
  state? i state hstate := by
    obtain ⟨hlt, -⟩ := List.getElem?_eq_some_iff.mp hstate
    have hdecl := List.getElem?_eq_getElem (has.states_length ▸ hlt)
    obtain ⟨hlt', -⟩ := List.getElem?_eq_some_iff.mp (h.state? hdecl)
    obtain ⟨state', hstate'⟩ : ∃ state', table'.state? (grammar.renumber labels grammar' i) =
        some state' := ⟨_, List.getElem?_eq_getElem (has'.states_length ▸ hlt')⟩
    have hrules := h.expands (has.expands i state hstate)
    rw [← h.sources hdecl] at hrules
    exact ⟨state', hstate', (has'.expands _ state' hstate').unique hrules⟩

end Renamed

end Grammar

namespace TableSet

variable {grammars grammars' : List Grammar} {set set' : TableSet} {renames : Renaming}

-- A name is looked up to the first grammar that has it.
theorem BuiltAs.id?_eq (h : BuiltAs grammars set) (name : String) :
    set.id? name = holder? grammars name := by
  cases hid : set.id? name with
  | some id =>
      obtain ⟨grammar, -, hgrammar, hname, -, -⟩ := h.of_id? hid
      exact ((holder?_eq_some_iff h.index.nodup).mpr ⟨grammar, hgrammar, hname⟩).symm
  | none =>
      symm
      apply Option.eq_none_iff_forall_ne_some.mpr
      intro id hholder
      obtain ⟨grammar, hgrammar, hname⟩ := (holder?_eq_some_iff h.index.nodup).mp hholder
      have hknown := (h.id?_isSome name).mpr
        (List.mem_flatMap.mpr ⟨grammar, List.mem_of_getElem? hgrammar, hname⟩)
      rw [hid] at hknown
      contradiction

theorem BuiltAs.named?_eq (h : BuiltAs grammars set) (id : TableId) (name : LexerName) :
    set.named? id name = target? grammars id name := by
  cases name with
  | this => rfl
  | named name => exact h.id?_eq name

theorem lookup?_root (set : TableSet) (id : TableId) (name : LexerName) :
    set.lookup? id ⟨name, none⟩ = (set.named? id name).map (⟨·, none⟩) := by
  unfold lookup?
  cases set.named? id name <;> rfl

theorem lookup?_state (set : TableSet) (id : TableId) (name : LexerName) (state : String) :
    set.lookup? id ⟨name, some state⟩ = (set.named? id name).bind fun number =>
      ((set.table? number).bind (·.stateId? state)).map fun start => ⟨number, some start⟩ := by
  unfold lookup?
  cases set.named? id name with
  | none => rfl
  | some number =>
      simp only [Option.bind_eq_bind, Option.bind_some]
      cases set.table? number with
      | none => rfl
      | some table => cases hstart : table.stateId? state <;> simp [hstart]

-- The numbers of states under their new names, for each table.
def renumber (renames : Renaming) (grammars grammars' : List Grammar) (id : TableId) :
    StateId → StateId :=
  match grammars[id]?, grammars'[id]? with
  | some grammar, some grammar' => grammar.renumber (labels renames grammars id) grammar'
  | _, _ => fun state => state

namespace Renamed

variable (h : Renamed renames grammars grammars') (hbuilt : BuiltAs grammars set)
variable (hbuilt' : BuiltAs grammars' set')

include h hbuilt hbuilt'

theorem length_eq : set'.tables.length = set.tables.length := by
  rw [hbuilt'.length, h.length, hbuilt.length]

theorem tables (id : TableId) (table : Table) (htable : set.table? id = some table) :
    ∃ table', set'.table? id = some table' ∧
      table.Renumbered (renumber renames grammars grammars' id) (labels renames grammars id)
        table' := by
  obtain ⟨grammar, hgrammar, has⟩ := hbuilt.grammar htable
  obtain ⟨grammar', hgrammar', hrenamed⟩ := h.each id grammar hgrammar
  obtain ⟨table', htable', has'⟩ := hbuilt'.table id grammar' hgrammar'
  refine ⟨table', htable', ?_⟩
  rw [renumber, hgrammar, hgrammar']
  exact hrenamed.tables has has'

theorem stateId?_eq (id : TableId) (name : String) :
    (set'.table? id).bind (·.stateId? (renames id name)) =
      ((set.table? id).bind (·.stateId? name)).map (renumber renames grammars grammars' id) := by
  cases htable : set.table? id with
  | some table =>
      obtain ⟨grammar, hgrammar, has⟩ := hbuilt.grammar htable
      obtain ⟨grammar', hgrammar', hrenamed⟩ := h.each id grammar hgrammar
      obtain ⟨table', htable', has'⟩ := hbuilt'.table id grammar' hgrammar'
      rw [htable', Option.bind_some, Option.bind_some, has.stateId?_eq, has'.stateId?_eq, renumber,
        hgrammar, hgrammar']
      exact hrenamed.findIdx?_eq name
  | none =>
      rw [table?_none_of_length (h.length_eq hbuilt hbuilt') htable]
      rfl

theorem lookup?_eq (id : TableId) (delegation : Delegation) :
    set'.lookup? id (delegation.rename (labels renames grammars id)) =
      (set.lookup? id delegation).map (Target.renumber (renumber renames grammars grammars')) := by
  obtain ⟨target, state?⟩ := delegation
  have hnamed : set'.named? id target = set.named? id target := by
    rw [hbuilt'.named?_eq, hbuilt.named?_eq, h.target?_eq]
  cases state? with
  | none =>
      change set'.lookup? id ⟨target, none⟩ = _
      rw [lookup?_root, lookup?_root, hnamed, Option.map_map]
      rfl
  | some state =>
      change set'.lookup? id ⟨target, some (labels renames grammars id target state)⟩ = _
      rw [lookup?_state, lookup?_state, hnamed]
      cases hnumber : set.named? id target with
      | none => rfl
      | some number =>
          have hlabel : labels renames grammars id target state = renames number state := by
            rw [hbuilt.named?_eq] at hnumber
            rw [labels, hnumber]
            rfl
          rw [Option.bind_some, Option.bind_some, hlabel, h.stateId?_eq hbuilt hbuilt',
            Option.map_map, Option.map_map]
          rfl

-- But for the numbers of states and the names in delegations, each state keeps its rules, and
-- delegations lead to the same states.
theorem renumbered (hoptions : set'.options = set.options) :
    set.Renumbered (renumber renames grammars grammars') (labels renames grammars) set' where
  options := hoptions
  length := h.length_eq hbuilt hbuilt'
  table? := h.tables hbuilt hbuilt'
  lookup? := h.lookup?_eq hbuilt hbuilt'

end Renamed

end TableSet

end StackLexer
