import StackLexer.Proofs.Table.Relocation
import StackLexer.Proofs.Table.Sound

namespace StackLexer

-- The whole match with one kind.
def Callback.ofKind (kind : Kind) : Callback := ⟨fun context => [(kind, context.span)]⟩

-- A kind for each group that took part, in the order of the groups.
def Callback.ofKinds (kinds : List Kind) : Callback :=
  ⟨fun context => (kinds.zipIdx 1).filterMap fun (kind, index) =>
    (context.groupSpan? index).map (kind, ·)⟩

-- An action that gives its match a kind, or each group of it one, can be written with a callback
-- that returns the same.
inductive Action.Recast {δ : Type} : Action δ → Action δ → Prop where
  | same {action} : Recast action action
  | token {kind} : Recast (.token kind) (.callback (.ofKind kind))
  | groups {kinds : List Kind} : Recast (.groups (kinds.map .kind)) (.callback (.ofKinds kinds))

structure RuleDecl.Recast (decl decl' : RuleDecl) : Prop where
  pattern : decl'.pattern = decl.pattern
  action : decl.action.Recast decl'.action
  transition : decl'.transition = decl.transition

inductive Entry.Recast : Entry → Entry → Prop where
  | rule {decl decl'} (h : decl.Recast decl') : Recast (.rule decl) (.rule decl')
  | include {state} : Recast (.include state) (.include state)
  | default {transition} : Recast (.default transition) (.default transition)

-- The states of a grammar, with the same names.
def StatesRecast : List (String × List Entry) → List (String × List Entry) → Prop :=
  List.Forall₂ fun state state' => state'.1 = state.1 ∧ List.Forall₂ Entry.Recast state.2 state'.2

structure Grammar.Recast (grammar grammar' : Grammar) : Prop where
  name : grammar'.name = grammar.name
  aliases : grammar'.aliases = grammar.aliases
  flags : grammar'.flags = grammar.flags
  states : StatesRecast grammar.states grammar'.states

-- Rules in the same place of a table, and what holds them.
structure Rule.Recast (rule rule' : Rule) : Prop where
  pattern : rule'.pattern = rule.pattern
  action : rule.action.Recast rule'.action
  ops : rule'.ops = rule.ops
  origin : rule'.origin = rule.origin

structure State.Recast (state state' : State) : Prop where
  name : state'.name = state.name
  rules : List.Forall₂ Rule.Recast state.rules state'.rules

structure Table.Recast (table table' : Table) : Prop where
  root : table'.root = table.root
  stateId? : ∀ name, table'.stateId? name = table.stateId? name
  state? : ∀ i state, table.state? i = some state →
    ∃ state', table'.state? i = some state' ∧ state.Recast state'

structure TableSet.Recast (set set' : TableSet) : Prop where
  options : set'.options = set.options
  index : set'.index = set.index
  length : set'.tables.length = set.tables.length
  table? : ∀ id table, set.table? id = some table →
    ∃ table', set'.table? id = some table' ∧ table.Recast table'

section Lists

variable {α β : Type} {r : α → β → Prop} {xs : List α} {ys : List β}

theorem exists_left_of_forall₂ (h : List.Forall₂ r xs ys) : ∀ y ∈ ys, ∃ x ∈ xs, r x y := by
  induction h with
  | nil => simp
  | cons hfirst _ ih =>
      refine List.forall_mem_cons.mpr ⟨⟨_, List.mem_cons_self .., hfirst⟩, fun y hmem => ?_⟩
      obtain ⟨x, hx, hrel⟩ := ih y hmem
      exact ⟨x, List.mem_cons_of_mem _ hx, hrel⟩

theorem exists_right_of_forall₂ (h : List.Forall₂ r xs ys) : ∀ x ∈ xs, ∃ y ∈ ys, r x y :=
  exists_left_of_forall₂ h.flip

theorem getElem?_of_forall₂ (h : List.Forall₂ r xs ys) {i : Nat} {x : α} (hx : xs[i]? = some x) :
    ∃ y, ys[i]? = some y ∧ r x y := by
  induction h generalizing i with
  | nil => simp at hx
  | cons hfirst _ ih =>
      cases i with
      | zero =>
          obtain rfl := Option.some.inj hx
          exact ⟨_, rfl, hfirst⟩
      | succ i => exact ih hx

end Lists

section Action

variable {δ ε : Type} {action action' : Action δ}

theorem Action.Recast.mapDelegations (h : action.Recast action') (f : Nat → δ → ε) :
    (action.mapDelegations f).Recast (action'.mapDelegations f) := by
  cases h with
  | same => exact .same
  | token => exact .token
  | @groups kinds =>
      have hparts : (Action.groups (kinds.map Part.kind)).mapDelegations f =
          .groups (kinds.map Part.kind) := by
        rw [Action.mapDelegations]
        congr 1
        apply List.ext_getElem <;> simp
      rw [hparts]
      exact .groups

-- Delegations and groups that are still there were there before.
theorem Action.Recast.eq_of_delegate (h : action.Recast action') {delegation : δ}
    (hdelegate : action' = .delegate delegation) : action = action' := by
  cases h with
  | same => rfl
  | token => contradiction
  | groups => contradiction

theorem Action.Recast.eq_of_groups (h : action.Recast action') {parts : List (Part δ)}
    (hgroups : action' = .groups parts) : action = action' := by
  cases h with
  | same => rfl
  | token => contradiction
  | groups => contradiction

end Action

theorem Entry.Recast.rule? {entry entry' : Entry} (h : entry.Recast entry') {decl : RuleDecl}
    (hdecl : entry.rule? = some decl) : ∃ decl', entry'.rule? = some decl' ∧ decl.Recast decl' := by
  cases h with
  | rule hrecast =>
      obtain rfl := Option.some.inj hdecl
      exact ⟨_, rfl, hrecast⟩
  | «include» => contradiction
  | default =>
      obtain rfl := Option.some.inj hdecl
      exact ⟨_, rfl, rfl, .same, rfl⟩

theorem Entry.Recast.rule?_left {entry entry' : Entry} (h : entry.Recast entry') {decl' : RuleDecl}
    (hdecl : entry'.rule? = some decl') : ∃ decl, entry.rule? = some decl ∧ decl.Recast decl' := by
  cases h with
  | rule hrecast =>
      obtain rfl := Option.some.inj hdecl
      exact ⟨_, rfl, hrecast⟩
  | «include» => contradiction
  | default =>
      obtain rfl := Option.some.inj hdecl
      exact ⟨_, rfl, rfl, .same, rfl⟩

namespace Grammar

variable {grammar grammar' : Grammar} {id : TableId}

namespace Recast

theorem stateNames (h : grammar.Recast grammar') : grammar'.stateNames = grammar.stateNames := by
  have hmap : ∀ {states states' : List (String × List Entry)}, StatesRecast states states' →
      states'.map (·.1) = states.map (·.1) := by
    intro states states' hstates
    induction hstates with
    | nil => rfl
    | cons hfirst _ ih => rw [List.map_cons, List.map_cons, hfirst.1, ih]
  exact hmap h.states

theorem names (h : grammar.Recast grammar') : grammar'.names = grammar.names := by
  rw [Grammar.names, Grammar.names, h.name, h.aliases]

theorem hasEntry (h : grammar.Recast grammar') {state : String} {entry' : Entry}
    (hentry : grammar'.HasEntry state entry') :
    ∃ entry, grammar.HasEntry state entry ∧ entry.Recast entry' := by
  obtain ⟨entries', hmem, hentry⟩ := hentry
  obtain ⟨⟨name, entries⟩, hstate, hname, hentries⟩ := exists_left_of_forall₂ h.states _ hmem
  obtain ⟨entry, hmem', hrecast⟩ := exists_left_of_forall₂ hentries _ hentry
  obtain rfl : state = name := hname
  exact ⟨entry, ⟨entries, hstate, hmem'⟩, hrecast⟩

theorem hasDelegation (h : grammar.Recast grammar') {delegation : Delegation}
    (hdelegation : grammar'.HasDelegation delegation) : grammar.HasDelegation delegation := by
  obtain ⟨state, decl', hentry, haction⟩ := hdelegation
  obtain ⟨entry, hentry, hrecast⟩ := h.hasEntry hentry
  cases hrecast with
  | @rule decl _ hdecl =>
      refine ⟨state, decl, hentry, ?_⟩
      rcases haction with haction | ⟨parts, haction, hmem⟩
      · exact .inl ((hdecl.action.eq_of_delegate haction).trans haction)
      · exact .inr ⟨parts, (hdecl.action.eq_of_groups haction).trans haction, hmem⟩

theorem accepts (h : grammar.Recast grammar') {decl decl' : RuleDecl} (hdecl : decl.Recast decl')
    (haccepts : grammar.Accepts decl) : grammar'.Accepts decl' where
  pattern := by
    rw [hdecl.pattern, h.flags]
    exact haccepts.pattern
  pushes := by
    rw [hdecl.transition, h.stateNames]
    exact haccepts.pushes
  pops := by
    rw [hdecl.transition]
    exact haccepts.pops
  groups pattern parts hpattern haction := by
    rw [hdecl.pattern, h.flags] at hpattern
    exact haccepts.groups pattern parts hpattern
      ((hdecl.action.eq_of_groups haction).trans haction)
  moves := by
    rw [hdecl.pattern, hdecl.transition, h.flags]
    exact haccepts.moves

-- The states that come with a state are the same.
theorem includes (h : grammar.Recast grammar') {source target : String}
    (hincludes : grammar'.Includes source target) : grammar.Includes source target := by
  obtain ⟨entries', hlookup, hmem⟩ := hincludes
  have hfind : ∀ {states states' : List (String × List Entry)}, StatesRecast states states' →
      states'.lookup source = some entries' →
      ∃ entries, states.lookup source = some entries ∧
        List.Forall₂ Entry.Recast entries entries' := by
    intro states states' hstates hlookup
    induction hstates with
    | nil => contradiction
    | @cons state state' states states' hfirst _ ih =>
        obtain ⟨hname, hentries⟩ := hfirst
        rw [List.lookup_cons, hname] at hlookup
        rw [List.lookup_cons]
        split at hlookup
        · obtain rfl := Option.some.inj hlookup
          exact ⟨_, rfl, hentries⟩
        · exact ih hlookup
  obtain ⟨entries, hlookup, hentries⟩ := hfind h.states hlookup
  obtain ⟨entry, hentry, hrecast⟩ := exists_left_of_forall₂ hentries _ hmem
  cases hrecast
  exact ⟨entries, hlookup, hentry⟩

theorem wellFormed (h : grammar.Recast grammar') (hgrammar : grammar.WellFormed) :
    grammar'.WellFormed where
  root := by
    rw [h.stateNames]
    exact hgrammar.root
  rules state decl' hrule := by
    obtain ⟨entry', hentry, hdecl⟩ := hrule
    obtain ⟨entry, hentry, hrecast⟩ := h.hasEntry hentry
    obtain ⟨decl, hown, hdecl⟩ := hrecast.rule?_left hdecl
    exact h.accepts hdecl (hgrammar.rules state decl ⟨entry, hentry, hown⟩)
  includes source target hentry := by
    obtain ⟨entry, hentry, hrecast⟩ := h.hasEntry hentry
    cases hrecast
    rw [h.stateNames]
    exact hgrammar.includes source target hentry
  acyclic state hloop := by
    have hincludes : grammar'.Includes ≤ grammar.Includes := fun _ _ => h.includes
    exact hgrammar.acyclic state (Relation.TransGen.mono hincludes _ _ hloop)

theorem compilePattern_eq (h : grammar.Recast grammar') (state source : String) :
    grammar'.compilePattern state source = grammar.compilePattern state source := by
  rw [compilePattern, compilePattern, h.name, h.flags]

theorem compileOp_eq (h : grammar.Recast grammar') (state pattern : String) :
    grammar'.compileOp state pattern = grammar.compileOp state pattern := by
  funext op
  unfold compileOp
  split
  · rw [stateId, stateId, h.stateNames, h.name]
  · rfl
  · rw [h.name]
  · rfl

theorem compileRule_ok (h : grammar.Recast grammar') {decl decl' : RuleDecl}
    (hdecl : decl.Recast decl') {state : String} {origin : StateId} {place : Nat} {rule : Rule}
    (hrule : grammar.compileRule id state origin place decl = .ok rule) :
    ∃ rule', grammar'.compileRule id state origin place decl' = .ok rule' ∧ rule.Recast rule' := by
  obtain ⟨pattern, hpattern, hrule⟩ := bind_eq_ok.mp hrule
  obtain ⟨ops, hops, hrule⟩ := bind_eq_ok.mp hrule
  obtain ⟨checked, hgroups, hrule⟩ := bind_eq_ok.mp hrule
  rw [← h.compilePattern_eq, ← hdecl.pattern] at hpattern
  rw [← h.compileOp_eq, ← hdecl.pattern, ← hdecl.transition] at hops
  have hgroups' : grammar'.checkGroups state decl' pattern = .ok () := by
    unfold checkGroups at hgroups ⊢
    split
    case h_1 parts haction =>
      rw [(hdecl.action.eq_of_groups haction).trans haction] at hgroups
      dsimp only at hgroups
      split at hgroups
      · contradiction
      · rename_i hle
        exact if_neg hle
    case h_2 => rfl
  split at hrule
  · contradiction
  · rename_i hmoves
    obtain rfl := pure_eq_ok.mp hrule
    let action := decl'.action.mapDelegations fun part delegation =>
      (⟨⟨id, origin, place, part⟩, delegation⟩ : Handle)
    refine ⟨⟨pattern, action, ops, origin⟩, bind_eq_ok.mpr ⟨pattern, hpattern,
      bind_eq_ok.mpr ⟨ops, hops, bind_eq_ok.mpr ⟨(), hgroups', if_neg hmoves⟩⟩⟩, ?_⟩
    exact ⟨rfl, hdecl.action.mapDelegations _, rfl, rfl⟩

end Recast

-- The same place, with an entry that may be written otherwise.
structure Source.Recast (source source' : Source) : Prop where
  state : source'.state = source.state
  place : source'.place = source.place
  entry : source.entry.Recast source'.entry

namespace Recast

theorem sources (h : grammar.Recast grammar') (state : StateId) :
    List.Forall₂ Source.Recast (grammar.sources state) (grammar'.sources state) := by
  have hfrom : ∀ {entries entries' : List Entry} (place : Nat),
      List.Forall₂ Entry.Recast entries entries' →
      List.Forall₂ Source.Recast (sourcesFrom state place entries)
        (sourcesFrom state place entries') := by
    intro entries entries' place hentries
    induction hentries generalizing place with
    | nil => exact .nil
    | cons hfirst _ ih => exact .cons ⟨rfl, rfl, hfirst⟩ (ih (place + 1))
  unfold Grammar.sources
  cases hstate : grammar.states[state]? with
  | some own =>
      obtain ⟨own', hstate', -, hentries⟩ := getElem?_of_forall₂ h.states hstate
      rw [hstate']
      exact hfrom 0 hentries
  | none =>
      rw [List.getElem?_eq_none_iff, h.states.length_eq, ← List.getElem?_eq_none_iff] at hstate
      rw [hstate]
      exact .nil

theorem compiles (h : grammar.Recast grammar') {source source' : Source}
    (hsource : source.Recast source') {rule : Rule} (hrule : grammar.Compiles id source rule) :
    ∃ rule', grammar'.Compiles id source' rule' ∧ rule.Recast rule' := by
  obtain ⟨name, decl, hname, hdecl, hrule⟩ := hrule
  obtain ⟨decl', hdecl', hrecast⟩ := hsource.entry.rule? hdecl
  obtain ⟨rule', hrule', hrules⟩ := h.compileRule_ok hrecast hrule
  refine ⟨rule', ⟨name, decl', ?_, hdecl', ?_⟩, hrules⟩
  · rwa [hsource.state, h.stateNames]
  · rwa [hsource.state, hsource.place]

theorem expands (h : grammar.Recast grammar') {sources sources' : List Source}
    (hsources : List.Forall₂ Source.Recast sources sources') {rules : List Rule}
    (hrules : grammar.Expands id sources rules) :
    ∃ rules', grammar'.Expands id sources' rules' ∧ List.Forall₂ Rule.Recast rules rules' := by
  induction hrules generalizing sources' with
  | nil =>
      cases hsources
      exact ⟨[], .nil, .nil⟩
  | rule hown _ ih =>
      cases hsources with
      | cons hfirst hrest =>
          obtain ⟨own', hown', hrecast⟩ := h.compiles hfirst hown
          obtain ⟨rules', hrules', hmore⟩ := ih hrest
          exact ⟨own' :: rules', .rule hown' hrules', .cons hrecast hmore⟩
  | @«include» source rest target number more rules hentry hnumber _ _ ihmore ih =>
      cases hsources with
      | @cons _ source' _ _ hfirst hrest =>
          obtain ⟨more', hmore', hincluded⟩ := ihmore (h.sources number)
          obtain ⟨rules', hrules', hrules⟩ := ih hrest
          have hentry' : source'.entry = .include target := by
            have hrecast := hfirst.entry
            rw [hentry] at hrecast
            generalize source'.entry = entry' at hrecast
            cases hrecast
            rfl
          have hnumber' : grammar'.Numbers target number := by
            rw [Numbers, h.stateNames]
            exact hnumber
          exact ⟨more' ++ rules', .include hentry' hnumber' hmore' hrules',
            List.rel_append hincluded hrules⟩

theorem tables (h : grammar.Recast grammar') {table table' : Table}
    (htable : grammar.TableAs id table) (htable' : grammar'.TableAs id table') :
    table.Recast table' where
  root := by
    have hroot := htable'.root
    rw [Numbers, h.stateNames] at hroot
    exact Numbers.unique hroot htable.root
  stateId? name := by rw [htable'.stateId?_eq, htable.stateId?_eq, h.stateNames]
  state? i state hstate := by
    have hlength : table'.states.length = table.states.length := by
      rw [htable'.states_length, htable.states_length, h.states.length_eq]
    obtain ⟨hlt, -⟩ := List.getElem?_eq_some_iff.mp hstate
    obtain ⟨state', hstate'⟩ : ∃ state', table'.state? i = some state' :=
      ⟨_, List.getElem?_eq_getElem (hlength ▸ hlt)⟩
    have hname := htable'.name? hstate'
    rw [h.stateNames, htable.name? hstate] at hname
    obtain ⟨rules', hexpands, hrules⟩ := h.expands (h.sources i) (htable.expands i state hstate)
    obtain rfl := (htable'.expands i state' hstate').unique hexpands
    exact ⟨state', hstate', (Option.some.inj hname).symm, hrules⟩

end Recast

end Grammar

namespace TableSet

variable {grammars grammars' : List Grammar} {set set' : TableSet}

theorem table?_none_of_length (hlength : set'.tables.length = set.tables.length) {id : TableId}
    (htable : set.table? id = none) : set'.table? id = none := by
  rw [table?, List.getElem?_eq_none_iff] at htable ⊢
  rwa [hlength]

theorem index_of_build {options : Options} (h : build grammars options = .ok set) :
    indexFrom 0 [] grammars = .ok set.index := by
  obtain ⟨index, hindex, h⟩ := bind_eq_ok.mp h
  obtain ⟨tables, -, h⟩ := bind_eq_ok.mp h
  obtain ⟨-, -, h⟩ := bind_eq_ok.mp h
  obtain rfl := pure_eq_ok.mp h
  exact hindex

theorem indexFrom_recast (h : List.Forall₂ Grammar.Recast grammars grammars') (id : TableId)
    (taken : List (String × TableId)) :
    indexFrom id taken grammars' = indexFrom id taken grammars := by
  induction h generalizing id taken with
  | nil => rfl
  | cons hfirst _ ih =>
      rw [indexFrom, indexFrom, hfirst.names]
      simp only [ih]

theorem WellFormed.recast (h : List.Forall₂ Grammar.Recast grammars grammars')
    (hgrammars : WellFormed grammars) : WellFormed grammars' where
  names := by
    have hnames : grammars'.flatMap Grammar.names = grammars.flatMap Grammar.names := by
      clear hgrammars
      induction h with
      | nil => rfl
      | cons hfirst _ ih => rw [List.flatMap_cons, List.flatMap_cons, hfirst.names, ih]
    rw [hnames]
    exact hgrammars.names
  each grammar' hmem := by
    obtain ⟨grammar, hmem, hrecast⟩ := exists_left_of_forall₂ h grammar' hmem
    exact hrecast.wellFormed (hgrammars.each grammar hmem)
  delegations grammar' hmem delegation hdelegation := by
    obtain ⟨grammar, hmem, hrecast⟩ := exists_left_of_forall₂ h grammar' hmem
    obtain ⟨target, hleads, hstates⟩ :=
      hgrammars.delegations grammar hmem delegation (hrecast.hasDelegation hdelegation)
    cases htarget : delegation.target with
    | this =>
        rw [htarget] at hleads
        obtain rfl : target = grammar := hleads
        refine ⟨grammar', rfl, ?_⟩
        rw [hrecast.stateNames]
        exact hstates
    | named name =>
        rw [htarget] at hleads
        obtain ⟨htarget, hname⟩ := hleads
        obtain ⟨target', hmem', hrecast'⟩ := exists_right_of_forall₂ h target htarget
        refine ⟨target', ⟨hmem', hrecast'.names ▸ hname⟩, ?_⟩
        rw [hrecast'.stateNames]
        exact hstates

-- A list of grammars with callbacks in the place of kinds is built, and its tables differ in these
-- actions only.
theorem exists_recast {options : Options} (hbuild : build grammars options = .ok set)
    (h : List.Forall₂ Grammar.Recast grammars grammars') :
    ∃ set', build grammars' options = .ok set' ∧ set.Recast set' := by
  obtain ⟨hbuilt, hgrammars⟩ := (build_settles grammars options).of_ok hbuild
  obtain ⟨set', hbuild'⟩ := build_ok_of_wellFormed (hgrammars.recast h) options
  obtain ⟨hbuilt', -⟩ := (build_settles grammars' options).of_ok hbuild'
  refine ⟨set', hbuild', ?_, ?_, ?_, ?_⟩
  · rw [options_of_build hbuild', options_of_build hbuild]
  · have hindex := index_of_build hbuild'
    rw [indexFrom_recast h, index_of_build hbuild] at hindex
    exact (Except.ok.inj hindex).symm
  · rw [hbuilt'.length, hbuilt.length, h.length_eq]
  · intro id table htable
    obtain ⟨grammar, hgrammar, has⟩ := hbuilt.grammar htable
    obtain ⟨grammar', hgrammar', hrecast⟩ := getElem?_of_forall₂ h hgrammar
    obtain ⟨table', htable', has'⟩ := hbuilt'.table id grammar' hgrammar'
    exact ⟨table', htable', hrecast.tables has has'⟩

end TableSet

end StackLexer
