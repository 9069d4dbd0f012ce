import Mathlib.Data.List.Chain
import Mathlib.Data.List.Nodup
import Mathlib.Logic.Relation
import StackLexer.TableSet

namespace StackLexer

-- A path from a place back to itself, on which no other place comes twice.
structure ClosedPath {α : Type} (r : α → α → Prop) (cycle : List α) : Prop where
  length : 2 ≤ cycle.length
  closed : cycle.head? = cycle.getLast?
  simple : cycle.tail.Nodup
  path : cycle.IsChain r

namespace ClosedPath

variable {α : Type} {r : α → α → Prop} {cycle : List α}

theorem exists_cons (h : ClosedPath r cycle) :
    ∃ first second rest, cycle = first :: second :: rest ∧
      (second :: rest).getLast (by simp) = first := by
  obtain ⟨hlength, hclosed, -, -⟩ := h
  match cycle with
  | [] => simp at hlength
  | [_] => simp at hlength
  | first :: second :: rest =>
      refine ⟨first, second, rest, rfl, ?_⟩
      simpa [List.getLast?_eq_some_getLast] using hclosed.symm

-- The first place leads to itself by way of the others.
theorem transGen (h : ClosedPath r cycle) : ∃ a, Relation.TransGen r a a := by
  obtain ⟨first, second, rest, rfl, hlast⟩ := h.exists_cons
  obtain ⟨hstep, hrest⟩ := List.isChain_cons_cons.mp h.path
  have hwalk := List.relationReflTransGen_of_exists_isChain_cons rest hrest hlast
  exact ⟨first, Relation.TransGen.head' hstep hwalk⟩

-- The path comes to each of its places from another.
theorem exists_rel (h : ClosedPath r cycle) : ∀ a ∈ cycle, ∃ b, r b a := by
  obtain ⟨first, second, rest, rfl, hlast⟩ := h.exists_cons
  have htail : ∀ a ∈ second :: rest, ∃ b, r b a := by
    intro a hmem
    obtain ⟨i, hi, rfl⟩ := List.getElem_of_mem hmem
    have hstep := List.isChain_iff_getElem.mp h.path i (by simpa using hi)
    exact ⟨_, hstep⟩
  intro a hmem
  rcases List.mem_cons.mp hmem with rfl | hmem
  · exact htail a (hlast ▸ List.getLast_mem _)
  · exact htail a hmem

end ClosedPath

-- The rule that an entry is or stands for.
def Entry.rule? : Entry → Option RuleDecl
  | .rule decl => some decl
  | .default transition => some (.ofDefault transition)
  | .include _ => none

namespace Grammar

variable {grammar : Grammar}

def HasEntry (grammar : Grammar) (state : String) (entry : Entry) : Prop :=
  ∃ entries, (state, entries) ∈ grammar.states ∧ entry ∈ entries

def HasRule (grammar : Grammar) (state : String) (decl : RuleDecl) : Prop :=
  ∃ entry, grammar.HasEntry state entry ∧ entry.rule? = some decl

-- A rule of the grammar hands its match, or a group of it, to another scan.
def HasDelegation (grammar : Grammar) (delegation : Delegation) : Prop :=
  ∃ state decl, grammar.HasEntry state (.rule decl) ∧
    (decl.action = .delegate delegation ∨
      ∃ parts, decl.action = .groups parts ∧ .delegate delegation ∈ parts)

-- The state `source` takes in the rules of the state `target`.
def Includes (grammar : Grammar) (source target : String) : Prop :=
  ∃ entries, grammar.states.lookup source = some entries ∧ .include target ∈ entries

-- A rule in order: its pattern compiles and has a group for each part of the action, its
-- operations push states of the grammar and pop something, and it changes the stack if its pattern
-- is known to match no text.
structure Accepts (grammar : Grammar) (decl : RuleDecl) : Prop where
  pattern : ∃ pattern, Pattern.compile decl.pattern grammar.flags = .ok pattern
  pushes : ∀ target, .push target ∈ decl.transition.ops → target ∈ grammar.stateNames
  pops : .pop 0 ∉ decl.transition.ops
  groups : ∀ pattern parts, Pattern.compile decl.pattern grammar.flags = .ok pattern →
    decl.action = .groups parts → parts.length ≤ pattern.groupCount
  moves : ∀ pattern, Pattern.compile decl.pattern grammar.flags = .ok pattern →
    decl.transition.ops = [] → pattern.matchesEmpty = false

-- A grammar in order. This is said of it as it is written, without a word on how tables are built.
structure WellFormed (grammar : Grammar) : Prop where
  root : rootName ∈ grammar.stateNames
  rules : ∀ state decl, grammar.HasRule state decl → grammar.Accepts decl
  includes : ∀ source target, grammar.HasEntry source (.include target) →
    target ∈ grammar.stateNames
  acyclic : ∀ state, ¬ Relation.TransGen grammar.Includes state state

-- The errors that a grammar gives rise to on its own, each with what is wrong.
inductive Defect (grammar : Grammar) : BuildError → Prop where
  | missingRoot (hroot : rootName ∉ grammar.stateNames) : Defect grammar (.missingRoot grammar.name)
  | unknownPush {state decl target} (hrule : grammar.HasRule state decl)
      (hop : .push target ∈ decl.transition.ops) (hunknown : target ∉ grammar.stateNames) :
      Defect grammar (.unknownState grammar.name state target)
  | unknownInclude {source target} (hentry : grammar.HasEntry source (.include target))
      (hunknown : target ∉ grammar.stateNames) :
      Defect grammar (.unknownState grammar.name source target)
  | includeCycle {cycle} (hcycle : ClosedPath grammar.Includes cycle) :
      Defect grammar (.includeCycle grammar.name cycle)
  | invalidPattern {state decl error} (hrule : grammar.HasRule state decl)
      (hpattern : Pattern.compile decl.pattern grammar.flags = .error error) :
      Defect grammar (.invalidPattern grammar.name state decl.pattern error.message)
  | zeroPop {state decl} (hrule : grammar.HasRule state decl)
      (hop : .pop 0 ∈ decl.transition.ops) :
      Defect grammar (.zeroPop grammar.name state decl.pattern)
  | groupCountMismatch {state decl pattern parts} (hrule : grammar.HasRule state decl)
      (hpattern : Pattern.compile decl.pattern grammar.flags = .ok pattern)
      (haction : decl.action = .groups parts) (hlt : pattern.groupCount < parts.length) :
      Defect grammar (.groupCountMismatch grammar.name state decl.pattern parts.length
        pattern.groupCount)
  | emptyMatchWithoutTransition {state decl pattern} (hrule : grammar.HasRule state decl)
      (hpattern : Pattern.compile decl.pattern grammar.flags = .ok pattern)
      (hops : decl.transition.ops = []) (hempty : pattern.matchesEmpty = true) :
      Defect grammar (.emptyMatchWithoutTransition grammar.name state decl.pattern)

theorem mem_delegations {delegation : Delegation} :
    delegation ∈ grammar.delegations ↔ grammar.HasDelegation delegation := by
  have haction : ∀ action : Action Delegation, delegation ∈ action.delegations ↔
      action = .delegate delegation ∨
        ∃ parts, action = .groups parts ∧ .delegate delegation ∈ parts := by
    intro action
    cases action with
    | token kind => simp [Action.delegations]
    | callback call => simp [Action.delegations]
    | delegate other => simp [Action.delegations, eq_comm]
    | groups parts =>
        simp only [Action.delegations, List.mem_filterMap, reduceCtorEq, false_or,
          Action.groups.injEq, exists_eq_left']
        constructor
        · rintro ⟨part, hmem, hpart⟩
          cases part with
          | kind kind => contradiction
          | delegate other =>
              obtain rfl := Option.some.inj hpart
              exact hmem
        · intro hmem
          exact ⟨_, hmem, rfl⟩
  constructor
  · intro hmem
    obtain ⟨⟨state, entries⟩, hstate, hmem⟩ := List.mem_flatMap.mp hmem
    obtain ⟨entry, hentry, hmem⟩ := List.mem_flatMap.mp hmem
    cases entry with
    | rule decl => exact ⟨state, decl, ⟨entries, hstate, hentry⟩, (haction _).mp hmem⟩
    | default transition => simp at hmem
    | «include» target => simp at hmem
  · rintro ⟨state, decl, ⟨entries, hstate, hentry⟩, hdelegation⟩
    apply List.mem_flatMap.mpr
    refine ⟨(state, entries), hstate, List.mem_flatMap.mpr ⟨.rule decl, hentry, ?_⟩⟩
    exact (haction _).mpr hdelegation

theorem Defect.not_wellFormed {error : BuildError} (h : grammar.Defect error) :
    ¬ grammar.WellFormed := by
  intro hgrammar
  cases h with
  | missingRoot hroot => exact hroot hgrammar.root
  | unknownPush hrule hop hunknown =>
      have haccepts := hgrammar.rules _ _ hrule
      exact hunknown (haccepts.pushes _ hop)
  | unknownInclude hentry hunknown => exact hunknown (hgrammar.includes _ _ hentry)
  | includeCycle hcycle =>
      obtain ⟨state, hloop⟩ := hcycle.transGen
      exact hgrammar.acyclic state hloop
  | invalidPattern hrule hpattern =>
      obtain ⟨pattern, hcompile⟩ := (hgrammar.rules _ _ hrule).pattern
      rw [hpattern] at hcompile
      contradiction
  | zeroPop hrule hop => exact (hgrammar.rules _ _ hrule).pops hop
  | groupCountMismatch hrule hpattern haction hlt =>
      have hle := (hgrammar.rules _ _ hrule).groups _ _ hpattern haction
      omega
  | emptyMatchWithoutTransition hrule hpattern hops hempty =>
      have hmoves := (hgrammar.rules _ _ hrule).moves _ hpattern hops
      rw [hempty] at hmoves
      contradiction

end Grammar

namespace TableSet

variable {grammars : List Grammar}

-- The grammar that a delegation of `grammar` names.
def LeadsTo (grammars : List Grammar) (grammar : Grammar) : LexerName → Grammar → Prop
  | .this, target => target = grammar
  | .named name, target => target ∈ grammars ∧ name ∈ target.names

structure WellFormed (grammars : List Grammar) : Prop where
  names : (grammars.flatMap Grammar.names).Nodup
  each : ∀ grammar ∈ grammars, grammar.WellFormed
  delegations : ∀ grammar ∈ grammars, ∀ delegation, grammar.HasDelegation delegation →
    ∃ target, LeadsTo grammars grammar delegation.target target ∧
      ∀ state ∈ delegation.state?, state ∈ target.stateNames

-- The errors that a list of grammars gives rise to.
inductive Defect (grammars : List Grammar) : BuildError → Prop where
  | own {grammar error} (hmem : grammar ∈ grammars) (h : grammar.Defect error) :
      Defect grammars error
  | duplicateLexer {name} (htwice : 2 ≤ (grammars.flatMap Grammar.names).count name) :
      Defect grammars (.duplicateLexer name)
  | unknownLexer {grammar delegation name} (hmem : grammar ∈ grammars)
      (hdelegation : grammar.HasDelegation delegation) (htarget : delegation.target = .named name)
      (hunknown : ∀ other ∈ grammars, name ∉ other.names) :
      Defect grammars (.unknownLexer grammar.name name)
  | unknownDelegationState {grammar target delegation state} (hmem : grammar ∈ grammars)
      (hdelegation : grammar.HasDelegation delegation)
      (htarget : LeadsTo grammars grammar delegation.target target)
      (hstate : delegation.state? = some state) (hunknown : state ∉ target.stateNames) :
      Defect grammars (.unknownDelegationState grammar.name target.name state)

-- No two grammars share a name, so a name leads to one place of the list.
theorem number_eq_of_mem_names (hnames : (grammars.flatMap Grammar.names).Nodup) {name : String}
    {grammar other : Grammar} {i j : TableId} (hi : grammars[i]? = some grammar)
    (hname : name ∈ grammar.names) (hj : grammars[j]? = some other) (hname' : name ∈ other.names) :
    i = j := by
  obtain ⟨-, hdisjoint⟩ := List.nodup_flatMap.mp hnames
  obtain ⟨hlt, rfl⟩ := List.getElem?_eq_some_iff.mp hi
  obtain ⟨hlt', rfl⟩ := List.getElem?_eq_some_iff.mp hj
  rcases Nat.lt_trichotomy i j with hless | rfl | hless
  · exact absurd hname' (List.pairwise_iff_getElem.mp hdisjoint i j hlt hlt' hless hname)
  · rfl
  · exact absurd hname (List.pairwise_iff_getElem.mp hdisjoint j i hlt' hlt hless hname')

-- A name that is taken once names one grammar.
theorem eq_of_mem_names (hnames : (grammars.flatMap Grammar.names).Nodup) {name : String}
    {grammar other : Grammar} (hmem : grammar ∈ grammars) (hname : name ∈ grammar.names)
    (hmem' : other ∈ grammars) (hname' : name ∈ other.names) : grammar = other := by
  obtain ⟨i, hi⟩ := List.mem_iff_getElem?.mp hmem
  obtain ⟨j, hj⟩ := List.mem_iff_getElem?.mp hmem'
  obtain rfl := number_eq_of_mem_names hnames hi hname hj hname'
  exact Option.some.inj (hi.symm.trans hj)

theorem LeadsTo.unique (hnames : (grammars.flatMap Grammar.names).Nodup) {grammar : Grammar}
    {name : LexerName} {target other : Grammar} (h : LeadsTo grammars grammar name target)
    (h' : LeadsTo grammars grammar name other) : target = other := by
  cases name with
  | this => exact Eq.trans h (Eq.symm h')
  | named name => exact eq_of_mem_names hnames h.1 h.2 h'.1 h'.2

theorem Defect.not_wellFormed {error : BuildError} (h : Defect grammars error) :
    ¬ WellFormed grammars := by
  intro hgrammars
  cases h with
  | own hmem h => exact h.not_wellFormed (hgrammars.each _ hmem)
  | duplicateLexer htwice =>
      have honce := List.nodup_iff_count_le_one.mp hgrammars.names
      exact Nat.not_lt.mpr (honce _) htwice
  | unknownLexer hmem hdelegation htarget hunknown =>
      obtain ⟨target, hleads, -⟩ := hgrammars.delegations _ hmem _ hdelegation
      rw [htarget] at hleads
      exact hunknown target hleads.1 hleads.2
  | unknownDelegationState hmem hdelegation htarget hstate hunknown =>
      obtain ⟨target, hleads, hstates⟩ := hgrammars.delegations _ hmem _ hdelegation
      obtain rfl := hleads.unique hgrammars.names htarget
      exact hunknown (hstates _ hstate)

end TableSet

end StackLexer
