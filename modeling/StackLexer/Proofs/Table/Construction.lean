import StackLexer.Proofs.Table.Expansion

namespace StackLexer

namespace Grammar

variable {grammar : Grammar} {id : TableId}

-- The rule that stands in place `place` of the state with number `origin`.
def RuleAt (grammar : Grammar) (origin : StateId) (place : Nat) (decl : RuleDecl) : Prop :=
  ∃ name entries entry, grammar.states[origin]? = some (name, entries) ∧
    entries[place]? = some entry ∧ entry.rule? = some decl

theorem RuleAt.unique {origin : StateId} {place : Nat} {decl other : RuleDecl}
    (h : grammar.RuleAt origin place decl) (h' : grammar.RuleAt origin place other) :
    decl = other := by
  obtain ⟨name, entries, entry, hstate, hentry, hdecl⟩ := h
  obtain ⟨name', entries', entry', hstate', hentry', hother⟩ := h'
  obtain ⟨-, rfl⟩ := Prod.mk.inj (Option.some.inj (hstate.symm.trans hstate'))
  obtain rfl := Option.some.inj (hentry.symm.trans hentry')
  exact Option.some.inj (hdecl.symm.trans hother)

-- The rule was written in a place of the grammar, and was compiled there.
def RuleFrom (grammar : Grammar) (id : TableId) (rule : Rule) : Prop :=
  ∃ place decl, grammar.RuleAt rule.origin place decl ∧
    grammar.RuleAs id rule.origin place decl rule

-- What a grammar in place `id` of its list is compiled to.
structure TableAs (grammar : Grammar) (id : TableId) (table : Table) : Prop where
  wellFormed : grammar.WellFormed
  name : table.name = grammar.name
  flags : table.flags = grammar.flags
  root : grammar.Numbers rootName table.root
  states : table.states.map State.name = grammar.stateNames
  delegations : table.delegations = grammar.delegations
  rules : ∀ state ∈ table.states, ∀ rule ∈ state.rules, grammar.RuleFrom id rule
  expands : ∀ i state, table.state? i = some state →
    grammar.Expands id (grammar.sources i) state.rules

namespace DeclaredAs

variable {declared : List (List Slot)}

theorem wellFormed (h : grammar.DeclaredAs id 0 grammar.states declared)
    (hroot : rootName ∈ grammar.stateNames)
    (hloops : ∀ i, i < declared.length → ¬ Relation.TransGen (Slot.Edge declared) i i) :
    grammar.WellFormed where
  root := hroot
  rules _ _ hrule := h.accepts hrule
  includes _ _ hentry := h.mem_of_include hentry
  acyclic := h.acyclic hloops

theorem ruleFrom (h : grammar.DeclaredAs id 0 grammar.states declared) :
    ∀ slots ∈ declared, ∀ rule, Slot.rule rule ∈ slots → grammar.RuleFrom id rule := by
  intro slots hslots rule hrule
  obtain ⟨i, hi⟩ := List.mem_iff_getElem?.mp hslots
  obtain ⟨name, entries, place, entry, hstate, hentry, hslot⟩ := h.entry_of_slot hi hrule
  cases hslot with
  | rule hdecl hcompiled =>
      obtain rfl := hcompiled.origin
      exact ⟨place, _, ⟨name, entries, entry, hstate, hentry, hdecl⟩, hcompiled⟩

theorem rules_from (h : grammar.DeclaredAs id 0 grammar.states declared) {i : StateId}
    {rules : List Rule} (hrules : Slot.SplicedAt declared i rules) :
    ∀ rule ∈ rules, grammar.RuleFrom id rule := by
  obtain ⟨slots, hslots, hspliced⟩ := hrules
  exact hspliced.forall_mem h.ruleFrom (h.ruleFrom slots (List.mem_of_getElem? hslots))

theorem resolveAll_settles (h : grammar.DeclaredAs id 0 grammar.states declared) :
    Settles (Slot.resolveAll grammar.name grammar.stateNames declared)
      (fun states => states.map State.name = grammar.stateNames ∧
        (∀ i state, states[i]? = some state → Slot.SplicedAt declared i state.rules) ∧
        ∀ i, i < declared.length → ¬ Relation.TransGen (Slot.Edge declared) i i)
      grammar.Defect := by
  apply (Slot.resolveAll_settles h.edge_lt h.stateNames_length).mono_bad
  rintro error ⟨cycle, hcycle, rfl⟩
  exact .includeCycle (h.closedPath hcycle)

end DeclaredAs

theorem compile_settles (grammar : Grammar) (id : TableId) :
    Settles (grammar.compile id) (grammar.TableAs id) grammar.Defect := by
  unfold compile
  split
  case h_1 hnone =>
    apply Defect.missingRoot
    intro hmem
    obtain ⟨root, hroot⟩ := exists_numbers hmem
    rw [Numbers, hnone] at hroot
    contradiction
  case h_2 root hroot =>
    apply (grammar.declared_settles id).bind
    intro declared hdeclared
    apply hdeclared.resolveAll_settles.bind
    rintro states ⟨hnames, hspliced, hloops⟩
    refine ⟨hdeclared.wellFormed (Numbers.mem hroot) hloops, rfl, rfl, hroot, hnames, rfl, ?_, ?_⟩
    · intro state hstate
      obtain ⟨i, hi⟩ := List.mem_iff_getElem?.mp hstate
      exact hdeclared.rules_from (hspliced i state hi)
    · intro i state hi
      exact hdeclared.expands (hspliced i state hi)

theorem compile_ok_of_wellFormed (h : grammar.WellFormed) (id : TableId) :
    ∃ table, grammar.compile id = .ok table := by
  cases hcompile : grammar.compile id with
  | ok table => exact ⟨table, rfl⟩
  | error error =>
      have hdefect := (compile_settles grammar id).of_error hcompile
      exact absurd h hdefect.not_wellFormed

theorem TableAs.states_length {table : Table} (h : grammar.TableAs id table) :
    table.states.length = grammar.states.length := by
  have hlength := congrArg List.length h.states
  simpa [stateNames] using hlength

-- The states of a table are found by the names of those of its grammar.
theorem TableAs.stateId?_eq {table : Table} (h : grammar.TableAs id table) (state : String) :
    table.stateId? state = grammar.stateNames.findIdx? (· == state) := by
  rw [← h.states, List.findIdx?_map]
  rfl

theorem TableAs.stateId?_isSome {table : Table} (h : grammar.TableAs id table) (state : String) :
    (table.stateId? state).isSome ↔ state ∈ grammar.stateNames := by
  rw [h.stateId?_eq, List.findIdx?_isSome, List.any_eq_true]
  simp

end Grammar

namespace TableSet

variable {grammars : List Grammar} {set : TableSet}

-- What the names of a list of grammars are indexed to.
structure IndexAs (grammars : List Grammar) (index : List (String × TableId)) : Prop where
  keys : index.map (·.1) = grammars.flatMap Grammar.names
  nodup : (grammars.flatMap Grammar.names).Nodup
  entry : ∀ name id, (name, id) ∈ index →
    ∃ grammar, grammars[id]? = some grammar ∧ name ∈ grammar.names

theorem lookup_isSome (index : List (String × TableId)) (name : String) :
    (index.lookup name).isSome ↔ name ∈ index.map (·.1) := by
  rw [List.lookup_isSome_iff, List.mem_map]
  simp only [beq_iff_eq, eq_comm (a := name)]

theorem indexNames_settles {bad : BuildError → Prop} (id : TableId) (names : List String)
    (taken : List (String × TableId)) (hnodup : (taken.map (·.1)).Nodup)
    (hbad : ∀ name, 2 ≤ (taken.map (·.1) ++ names).count name → bad (.duplicateLexer name)) :
    Settles (indexNames id taken names)
      (fun index => index = taken ++ names.map (·, id) ∧ (index.map (·.1)).Nodup) bad := by
  induction names generalizing taken with
  | nil => exact ⟨by simp, hnodup⟩
  | cons name names ih =>
      rw [indexNames]
      have hkeys := lookup_isSome taken name
      split
      case isTrue hsome =>
        apply hbad
        have htaken := List.count_pos_iff.mpr (hkeys.mp hsome)
        rw [List.count_append, List.count_cons_self]
        omega
      case isFalse hfresh =>
        have hmore : ((taken ++ [(name, id)]).map (·.1)).Nodup := by
          rw [List.map_append, List.nodup_append_comm]
          exact List.nodup_cons.mpr ⟨mt hkeys.mpr hfresh, hnodup⟩
        apply (ih (taken ++ [(name, id)]) hmore _).mono
        · rintro index ⟨rfl, hindex⟩
          exact ⟨by simp, hindex⟩
        · intro other htwice
          apply hbad
          simpa using htwice

theorem IndexAs.snoc {taken : List (String × TableId)} (h : IndexAs grammars taken)
    {grammar : Grammar}
    (hnodup : ((taken ++ grammar.names.map (·, grammars.length)).map (·.1)).Nodup) :
    IndexAs (grammars ++ [grammar]) (taken ++ grammar.names.map (·, grammars.length)) := by
  have hkeys : (taken ++ grammar.names.map (·, grammars.length)).map (·.1) =
      (grammars ++ [grammar]).flatMap Grammar.names := by
    simp [h.keys, Function.comp_def]
  constructor
  · exact hkeys
  · rw [← hkeys]
    exact hnodup
  · intro name id hmem
    rcases List.mem_append.mp hmem with hmem | hmem
    · obtain ⟨other, hget, hname⟩ := h.entry name id hmem
      obtain ⟨hlt, -⟩ := List.getElem?_eq_some_iff.mp hget
      rw [List.getElem?_append_left hlt]
      exact ⟨other, hget, hname⟩
    · obtain ⟨name', hname, heq⟩ := List.mem_map.mp hmem
      obtain ⟨rfl, rfl⟩ := Prod.mk.inj heq
      exact ⟨grammar, by simp, hname⟩

theorem indexFrom_settles (rest done : List Grammar) (taken : List (String × TableId))
    (htaken : IndexAs done taken) :
    Settles (indexFrom done.length taken rest) (IndexAs (done ++ rest))
      (fun error => ∃ name, error = .duplicateLexer name ∧
        2 ≤ ((done ++ rest).flatMap Grammar.names).count name) := by
  induction rest generalizing done taken with
  | nil => simpa [indexFrom, Settles] using htaken
  | cons grammar rest ih =>
      have hfirst : Settles (indexNames done.length taken grammar.names)
          (IndexAs (done ++ [grammar]))
          (fun error => ∃ name, error = .duplicateLexer name ∧
            2 ≤ ((done ++ grammar :: rest).flatMap Grammar.names).count name) := by
        apply (indexNames_settles done.length grammar.names taken _ _).mono
        · rintro index ⟨rfl, hnodup⟩
          exact htaken.snoc hnodup
        · rw [htaken.keys]
          exact htaken.nodup
        · intro name htwice
          refine ⟨name, rfl, ?_⟩
          rw [htaken.keys] at htwice
          simp only [List.flatMap_append, List.flatMap_cons, List.count_append] at htwice ⊢
          omega
      apply hfirst.bind
      intro index hindex
      have hrest := ih (done ++ [grammar]) index hindex
      rw [List.append_assoc, List.length_append] at hrest
      exact hrest

theorem compileFrom_settles (grammars : List Grammar) (id : TableId) :
    Settles (compileFrom id grammars)
      (fun tables => tables.length = grammars.length ∧
        ∀ i (grammar : Grammar), grammars[i]? = some grammar →
          ∃ table, tables[i]? = some table ∧ grammar.TableAs (id + i) table)
      (fun error => ∃ grammar ∈ grammars, grammar.Defect error) := by
  induction grammars generalizing id with
  | nil => exact ⟨rfl, by simp⟩
  | cons grammar grammars ih =>
      rw [compileFrom]
      cases hcompile : grammar.compile id with
      | error error => exact ⟨grammar, by simp, (grammar.compile_settles id).of_error hcompile⟩
      | ok table =>
          have htable := (grammar.compile_settles id).of_ok hcompile
          cases hrest : compileFrom (id + 1) grammars with
          | error error =>
              obtain ⟨other, hmem, hdefect⟩ := (ih (id + 1)).of_error hrest
              exact ⟨other, List.mem_cons_of_mem _ hmem, hdefect⟩
          | ok tables =>
              obtain ⟨hlength, htables⟩ := (ih (id + 1)).of_ok hrest
              refine ⟨by simp [hlength], ?_⟩
              intro i other hget
              cases i with
              | zero =>
                  obtain rfl := Option.some.inj hget
                  exact ⟨table, rfl, htable⟩
              | succ i =>
                  obtain ⟨table', hget', htable'⟩ := htables i other hget
                  rw [Nat.add_assoc, Nat.add_comm 1 i] at htable'
                  exact ⟨table', hget', htable'⟩

-- The part of checking a delegation that comes after its table is found.
def checkState (grammar : String) (target : Table) : Option String → Except BuildError Unit
  | none => .ok ()
  | some state =>
      if (target.stateId? state).isSome then .ok ()
      else .error (.unknownDelegationState grammar target.name state)

section Check

variable {table : Table} {delegation : Delegation} {name : String}

theorem checkDelegation_this (htarget : delegation.target = .this) :
    set.checkDelegation table delegation = checkState table.name table delegation.state? := by
  unfold checkDelegation checkState
  rw [htarget]
  rfl

theorem checkDelegation_named (htarget : delegation.target = .named name) {target : Table}
    (hget : set.get? name = some target) :
    set.checkDelegation table delegation = checkState table.name target delegation.state? := by
  unfold checkDelegation checkState
  simp only [htarget, hget]
  rfl

theorem checkDelegation_unknown (htarget : delegation.target = .named name)
    (hget : set.get? name = none) :
    set.checkDelegation table delegation = .error (.unknownLexer table.name name) := by
  unfold checkDelegation
  simp only [htarget, hget]
  rfl

end Check

-- What a list of grammars is built to: one table for each, in the same places.
structure BuiltAs (grammars : List Grammar) (set : TableSet) : Prop where
  length : set.tables.length = grammars.length
  table : ∀ id (grammar : Grammar), grammars[id]? = some grammar →
    ∃ table, set.table? id = some table ∧ grammar.TableAs id table
  index : IndexAs grammars set.index

namespace BuiltAs

theorem grammar (h : BuiltAs grammars set) {id : TableId} {table : Table}
    (htable : set.table? id = some table) :
    ∃ grammar, grammars[id]? = some grammar ∧ grammar.TableAs id table := by
  obtain ⟨hlt, -⟩ := List.getElem?_eq_some_iff.mp htable
  obtain ⟨grammar, hgrammar⟩ : ∃ grammar, grammars[id]? = some grammar :=
    ⟨_, List.getElem?_eq_getElem (h.length ▸ hlt)⟩
  obtain ⟨table', htable', has⟩ := h.table id grammar hgrammar
  obtain rfl := Option.some.inj (htable.symm.trans htable')
  exact ⟨grammar, hgrammar, has⟩

-- A name that is indexed leads to the table of a grammar that has it.
theorem of_id? (h : BuiltAs grammars set) {name : String} {id : TableId}
    (hid : set.id? name = some id) :
    ∃ (grammar : Grammar) (table : Table), grammars[id]? = some grammar ∧ name ∈ grammar.names ∧
      set.table? id = some table ∧ grammar.TableAs id table := by
  obtain ⟨before, after, hsplit, -⟩ := List.lookup_eq_some_iff.mp hid
  have hmem : (name, id) ∈ set.index := by simp [hsplit]
  obtain ⟨grammar, hgrammar, hname⟩ := h.index.entry name id hmem
  obtain ⟨table, htable, has⟩ := h.table id grammar hgrammar
  exact ⟨grammar, table, hgrammar, hname, htable, has⟩

-- The names that are indexed are those of the grammars.
theorem id?_isSome (h : BuiltAs grammars set) (name : String) :
    (set.id? name).isSome ↔ name ∈ grammars.flatMap Grammar.names := by
  rw [← h.index.keys]
  exact lookup_isSome set.index name

-- A name of a grammar leads to the table of that grammar.
theorem of_mem (h : BuiltAs grammars set) (hnames : (grammars.flatMap Grammar.names).Nodup)
    {grammar : Grammar} (hmem : grammar ∈ grammars) {name : String} (hname : name ∈ grammar.names) :
    ∃ id table, set.id? name = some id ∧ grammars[id]? = some grammar ∧
      set.table? id = some table ∧ grammar.TableAs id table := by
  have hknown := (h.id?_isSome name).mpr (List.mem_flatMap.mpr ⟨grammar, hmem, hname⟩)
  obtain ⟨id, hid⟩ := Option.isSome_iff_exists.mp hknown
  obtain ⟨found, table, hfound, hname', htable, has⟩ := h.of_id? hid
  obtain rfl := eq_of_mem_names hnames hmem hname (List.mem_of_getElem? hfound) hname'
  exact ⟨id, table, hid, hfound, htable, has⟩

-- A name that leads to no table is one that no grammar has.
theorem of_get?_none (h : BuiltAs grammars set) {name : String} (hget : set.get? name = none) :
    ∀ grammar ∈ grammars, name ∉ grammar.names := by
  intro grammar hmem hname
  have hknown := (h.id?_isSome name).mpr (List.mem_flatMap.mpr ⟨grammar, hmem, hname⟩)
  cases hid : set.id? name with
  | none =>
      rw [hid] at hknown
      contradiction
  | some id =>
      obtain ⟨-, table, -, -, htable, -⟩ := h.of_id? hid
      rw [get?, hid, Option.bind_some, htable] at hget
      contradiction

theorem checkState_settles {grammar target : Grammar} {id : TableId} {table : Table}
    (hmem : grammar ∈ grammars) {delegation : Delegation}
    (hdelegation : grammar.HasDelegation delegation)
    (hleads : LeadsTo grammars grammar delegation.target target) (has : target.TableAs id table) :
    Settles (checkState grammar.name table delegation.state?)
      (fun _ => ∃ target, LeadsTo grammars grammar delegation.target target ∧
        ∀ state ∈ delegation.state?, state ∈ target.stateNames)
      (Defect grammars) := by
  unfold checkState
  split
  case h_1 hnone => exact ⟨target, hleads, by simp [hnone]⟩
  case h_2 state hstate =>
    split
    case isTrue hknown =>
      refine ⟨target, hleads, ?_⟩
      intro other hother
      obtain rfl := Option.some.inj (hstate.symm.trans hother)
      exact (has.stateId?_isSome state).mp hknown
    case isFalse hunknown =>
      rw [has.name]
      exact .unknownDelegationState hmem hdelegation hleads hstate
        (mt (has.stateId?_isSome state).mpr hunknown)

theorem checkDelegation_settles (h : BuiltAs grammars set) {id : TableId} {table : Table}
    {grammar : Grammar} (hgrammar : grammars[id]? = some grammar) (has : grammar.TableAs id table)
    {delegation : Delegation} (hdelegation : grammar.HasDelegation delegation) :
    Settles (set.checkDelegation table delegation)
      (fun _ => ∃ target, LeadsTo grammars grammar delegation.target target ∧
        ∀ state ∈ delegation.state?, state ∈ target.stateNames)
      (Defect grammars) := by
  have hmem : grammar ∈ grammars := List.mem_of_getElem? hgrammar
  cases htarget : delegation.target with
  | this =>
      rw [checkDelegation_this htarget, has.name, ← htarget]
      apply checkState_settles hmem hdelegation _ has
      rw [htarget]
      rfl
  | named name =>
      cases hget : set.get? name with
      | none =>
          rw [checkDelegation_unknown htarget hget, has.name]
          exact Defect.unknownLexer hmem hdelegation htarget (h.of_get?_none hget)
      | some found =>
          obtain ⟨id', hid, hfound⟩ := Option.bind_eq_some_iff.mp hget
          obtain ⟨target, table', htarget', hname, htable', has'⟩ := h.of_id? hid
          obtain rfl := Option.some.inj (hfound.symm.trans htable')
          rw [checkDelegation_named htarget hget, has.name, ← htarget]
          apply checkState_settles hmem hdelegation _ has'
          rw [htarget]
          exact ⟨List.mem_of_getElem? htarget', hname⟩

theorem checkAll_settles (h : BuiltAs grammars set) :
    Settles (set.tables.forM fun table => table.delegations.forM (set.checkDelegation table))
      (fun _ => ∀ table ∈ set.tables, ∀ delegation ∈ table.delegations,
        set.checkDelegation table delegation = .ok ())
      (Defect grammars) := by
  apply Settles.forM
  intro table htable
  obtain ⟨id, hid⟩ := List.mem_iff_getElem?.mp htable
  obtain ⟨grammar, hgrammar, has⟩ := h.grammar hid
  apply Settles.forM
  intro delegation hmem
  cases hcheck : set.checkDelegation table delegation with
  | ok _ => rfl
  | error error =>
      rw [has.delegations] at hmem
      have hdelegation := Grammar.mem_delegations.mp hmem
      exact (h.checkDelegation_settles hgrammar has hdelegation).of_error hcheck

theorem wellFormed (h : BuiltAs grammars set)
    (hcheck : ∀ table ∈ set.tables, ∀ delegation ∈ table.delegations,
      set.checkDelegation table delegation = .ok ()) : WellFormed grammars := by
  have htable : ∀ grammar ∈ grammars, ∃ id table, grammars[id]? = some grammar ∧
      set.table? id = some table ∧ grammar.TableAs id table := by
    intro grammar hmem
    obtain ⟨id, hid⟩ := List.mem_iff_getElem?.mp hmem
    obtain ⟨table, htable, has⟩ := h.table id grammar hid
    exact ⟨id, table, hid, htable, has⟩
  constructor
  · exact h.index.nodup
  · intro grammar hmem
    obtain ⟨_, _, _, _, has⟩ := htable grammar hmem
    exact has.wellFormed
  · intro grammar hmem delegation hdelegation
    obtain ⟨id, table, hid, htable, has⟩ := htable grammar hmem
    have hmem' : delegation ∈ table.delegations := by
      rw [has.delegations]
      exact Grammar.mem_delegations.mpr hdelegation
    have hok := hcheck table (List.mem_of_getElem? htable) delegation hmem'
    exact (h.checkDelegation_settles hid has hdelegation).of_ok hok

end BuiltAs

theorem indexAll_settles (grammars : List Grammar) :
    Settles (indexFrom 0 [] grammars) (IndexAs grammars)
      (fun error => ∃ name, error = .duplicateLexer name ∧
        2 ≤ (grammars.flatMap Grammar.names).count name) :=
  indexFrom_settles grammars [] [] ⟨rfl, List.nodup_nil, by simp⟩

theorem BuiltAs.of_compileFrom {index : List (String × TableId)} {tables : List Table}
    {options : Options} (hindex : IndexAs grammars index)
    (htables : compileFrom 0 grammars = .ok tables) :
    BuiltAs grammars ⟨tables, index, options⟩ := by
  obtain ⟨hlength, htables⟩ := (compileFrom_settles grammars 0).of_ok htables
  refine ⟨hlength, ?_, hindex⟩
  intro id grammar hgrammar
  obtain ⟨table, htable, has⟩ := htables id grammar hgrammar
  rw [Nat.zero_add] at has
  exact ⟨table, htable, has⟩

-- How far building gets: the names are checked before any grammar, and every grammar is compiled
-- before the targets of delegations are looked up.
inductive Rounds (grammars : List Grammar) (options : Options) : Prop where
  | names {name} (hbuild : build grammars options = .error (.duplicateLexer name))
      (htwice : 2 ≤ (grammars.flatMap Grammar.names).count name)
  | grammars {grammar error} (hnames : (grammars.flatMap Grammar.names).Nodup)
      (hbuild : build grammars options = .error error)
      (hmem : grammar ∈ grammars) (hdefect : grammar.Defect error)
  | delegations {set : TableSet} (hbuilt : BuiltAs grammars set)
      (hbuild : build grammars options =
        set.tables.forM (fun table => table.delegations.forM (set.checkDelegation table)) >>=
          fun _ => .ok set)

theorem build_rounds (grammars : List Grammar) (options : Options) : Rounds grammars options := by
  cases hindex : indexFrom 0 [] grammars with
  | error error =>
      obtain ⟨name, rfl, htwice⟩ := (indexAll_settles grammars).of_error hindex
      refine .names ?_ htwice
      rw [build, hindex]
      rfl
  | ok index =>
      have has := (indexAll_settles grammars).of_ok hindex
      cases hcompile : compileFrom 0 grammars with
      | error error =>
          obtain ⟨grammar, hmem, hdefect⟩ := (compileFrom_settles grammars 0).of_error hcompile
          refine .grammars has.nodup ?_ hmem hdefect
          rw [build, hindex, hcompile]
          rfl
      | ok tables =>
          have hbuilt : BuiltAs grammars ⟨tables, index, options⟩ := .of_compileFrom has hcompile
          refine .delegations hbuilt ?_
          rw [build, hindex, hcompile]
          rfl

theorem build_settles (grammars : List Grammar) (options : Options) :
    Settles (build grammars options) (fun set => BuiltAs grammars set ∧ WellFormed grammars)
      (Defect grammars) := by
  cases build_rounds grammars options with
  | names hbuild htwice =>
      rw [hbuild]
      exact .duplicateLexer htwice
  | grammars hnames hbuild hmem hdefect =>
      rw [hbuild]
      exact .own hmem hdefect
  | delegations hbuilt hbuild =>
      rw [hbuild]
      apply hbuilt.checkAll_settles.bind
      intro _ hcheck
      exact ⟨hbuilt, hbuilt.wellFormed hcheck⟩

theorem BuiltAs.compile_ok (h : BuiltAs grammars set) {grammar : Grammar}
    (hmem : grammar ∈ grammars) (id : TableId) : ∃ table, grammar.compile id = .ok table := by
  obtain ⟨place, hplace⟩ := List.mem_iff_getElem?.mp hmem
  obtain ⟨table, -, has⟩ := h.table place grammar hplace
  exact Grammar.compile_ok_of_wellFormed has.wellFormed id

theorem build_ok_of_wellFormed (h : WellFormed grammars) (options : Options) :
    ∃ set, build grammars options = .ok set := by
  cases hbuild : build grammars options with
  | ok set => exact ⟨set, rfl⟩
  | error error =>
      have hdefect := (build_settles grammars options).of_error hbuild
      exact absurd h hdefect.not_wellFormed

-- An error that is neither of the first round nor of the second says that every grammar compiles.
theorem compile_of_build_error {options : Options} {error : BuildError}
    (hbuild : build grammars options = .error error) (hname : ∀ name, error ≠ .duplicateLexer name)
    (hown : ∀ grammar : Grammar, ¬ grammar.Defect error) :
    ∀ grammar ∈ grammars, ∀ id, ∃ table, grammar.compile id = .ok table := by
  intro grammar hmem id
  cases build_rounds grammars options with
  | names hbuild' =>
      rw [hbuild'] at hbuild
      exact absurd (Except.error.inj hbuild).symm (hname _)
  | grammars _ hbuild' _ hdefect =>
      rw [hbuild'] at hbuild
      exact absurd (Except.error.inj hbuild ▸ hdefect) (hown _)
  | delegations hbuilt => exact hbuilt.compile_ok hmem id

-- Construction accepts exactly the well-formed lists. An error names a defect of the list; a name
-- that is taken twice is always found, and targets of delegations are looked up only when every
-- grammar compiles.
theorem build_ok_iff_wellFormed (grammars : List Grammar) (options : Options) :
    ((∃ set, build grammars options = .ok set) ↔ WellFormed grammars) ∧
    (∀ error, build grammars options = .error error → Defect grammars error) ∧
    (¬ (grammars.flatMap Grammar.names).Nodup →
      ∃ name, build grammars options = .error (.duplicateLexer name)) ∧
    (∀ grammar target,
      build grammars options = .error (.unknownLexer grammar target) →
        ∀ other ∈ grammars, ∀ id, ∃ table, other.compile id = .ok table) ∧
    (∀ grammar target state,
      build grammars options = .error (.unknownDelegationState grammar target state) →
        ∀ other ∈ grammars, ∀ id, ∃ table, other.compile id = .ok table) := by
  have herror : ∀ error, build grammars options = .error error → Defect grammars error :=
    fun error hbuild => (build_settles grammars options).of_error hbuild
  refine ⟨⟨?_, ?_⟩, herror, ?_, ?_, ?_⟩
  · rintro ⟨set, hbuild⟩
    exact ((build_settles grammars options).of_ok hbuild).2
  · exact fun hgrammars => build_ok_of_wellFormed hgrammars options
  · intro htwice
    cases build_rounds grammars options with
    | names hbuild _ => exact ⟨_, hbuild⟩
    | grammars hnames => exact absurd hnames htwice
    | delegations hbuilt => exact absurd hbuilt.index.nodup htwice
  · intro grammar target hbuild
    exact compile_of_build_error hbuild (by simp) (by rintro _ ⟨⟩)
  · intro grammar target state hbuild
    exact compile_of_build_error hbuild (by simp) (by rintro _ ⟨⟩)

end TableSet

end StackLexer
