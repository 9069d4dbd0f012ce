import StackLexer.Proofs.Table.IncludeGraph
import StackLexer.Scan.Step

namespace StackLexer

namespace Grammar

variable {grammar : Grammar} {id : TableId}

-- An entry where it is written: the number of its state, and its number there.
structure Source where
  state : StateId
  place : Nat
  entry : Entry

-- Entries of a state, from number `place` on.
def sourcesFrom (state : StateId) (place : Nat) (entries : List Entry) : List Source :=
  (entries.zipIdx place).map fun (entry, place) => ⟨state, place, entry⟩

def sources (grammar : Grammar) (state : StateId) : List Source :=
  match grammar.states[state]? with
  | some (_, entries) => sourcesFrom state 0 entries
  | none => []

-- The rule that the entry is or stands for, compiled where it is written.
def Compiles (grammar : Grammar) (id : TableId) (source : Source) (rule : Rule) : Prop :=
  ∃ name decl, grammar.stateNames[source.state]? = some name ∧
    source.entry.rule? = some decl ∧
    grammar.compileRule id name source.state source.place decl = .ok rule

-- Entries with every include replaced by the expansion of its target.
inductive Expands (grammar : Grammar) (id : TableId) : List Source → List Rule → Prop where
  | nil : Expands grammar id [] []
  | rule {source rest own rules} (hown : grammar.Compiles id source own)
      (hrest : Expands grammar id rest rules) :
      Expands grammar id (source :: rest) (own :: rules)
  | include {source rest target number more rules} (hentry : source.entry = .include target)
      (hnumber : grammar.Numbers target number)
      (hmore : Expands grammar id (grammar.sources number) more)
      (hrest : Expands grammar id rest rules) :
      Expands grammar id (source :: rest) (more ++ rules)

-- A walk from entry to entry that goes into every include before it goes on, up to the first rule
-- that matches at the place.
inductive Walks (grammar : Grammar) (id : TableId) (place : Place) :
    List Source → Option (Rule × Match) → Prop where
  | nil : Walks grammar id place [] none
  | hit {source rest rule found} (hrule : grammar.Compiles id source rule)
      (hmatch : rule.pattern.matchAt place = some found) :
      Walks grammar id place (source :: rest) (some (rule, found))
  | miss {source rest rule won} (hrule : grammar.Compiles id source rule)
      (hmatch : rule.pattern.matchAt place = none) (hrest : Walks grammar id place rest won) :
      Walks grammar id place (source :: rest) won
  | enter {source rest target number won} (hentry : source.entry = .include target)
      (hnumber : grammar.Numbers target number)
      (hrest : Walks grammar id place (grammar.sources number ++ rest) won) :
      Walks grammar id place (source :: rest) won

section Unique

variable {source : Source} {sources : List Source} {rule : Rule} {place : Place}

theorem Compiles.unique (h : grammar.Compiles id source rule) {other : Rule}
    (h' : grammar.Compiles id source other) : rule = other := by
  obtain ⟨name, decl, hname, hdecl, hrule⟩ := h
  obtain ⟨name', decl', hname', hdecl', hother⟩ := h'
  obtain rfl := Option.some.inj (hname.symm.trans hname')
  obtain rfl := Option.some.inj (hdecl.symm.trans hdecl')
  exact Except.ok.inj (hrule.symm.trans hother)

theorem Compiles.ne_include (h : grammar.Compiles id source rule) (target : String) :
    source.entry ≠ .include target := by
  intro hentry
  obtain ⟨name, decl, -, hdecl, -⟩ := h
  rw [hentry] at hdecl
  contradiction

-- An include has one target, and that has one number.
theorem number_unique {target other : String} {i j : StateId}
    (hentry : source.entry = .include target) (hi : grammar.Numbers target i)
    (hentry' : source.entry = .include other) (hj : grammar.Numbers other j) : i = j := by
  obtain rfl := Entry.include.inj (hentry.symm.trans hentry')
  exact hi.unique hj

-- No order of states and nothing that was resolved before comes into an expansion.
theorem Expands.unique {rules other : List Rule} (h : grammar.Expands id sources rules)
    (h' : grammar.Expands id sources other) : rules = other := by
  induction h generalizing other with
  | nil =>
      cases h'
      rfl
  | rule hown _ ih =>
      cases h' with
      | rule hown' hrest' => rw [hown.unique hown', ih hrest']
      | «include» hentry => exact absurd hentry (hown.ne_include _)
  | «include» hentry hnumber _ _ ihmore ih =>
      cases h' with
      | rule hown' => exact absurd hentry (hown'.ne_include _)
      | «include» hentry' hnumber' hmore' hrest' =>
          obtain rfl := number_unique hentry hnumber hentry' hnumber'
          rw [ihmore hmore', ih hrest']

theorem Walks.unique {won other : Option (Rule × Match)}
    (h : grammar.Walks id place sources won) (h' : grammar.Walks id place sources other) :
    won = other := by
  induction h with
  | nil =>
      cases h'
      rfl
  | hit hrule hmatch =>
      cases h' with
      | hit hrule' hmatch' =>
          obtain rfl := hrule.unique hrule'
          rw [Option.some.inj (hmatch.symm.trans hmatch')]
      | miss hrule' hmatch' =>
          obtain rfl := hrule.unique hrule'
          rw [hmatch] at hmatch'
          contradiction
      | enter hentry => exact absurd hentry (hrule.ne_include _)
  | miss hrule hmatch _ ih =>
      cases h' with
      | hit hrule' hmatch' =>
          obtain rfl := hrule.unique hrule'
          rw [hmatch] at hmatch'
          contradiction
      | miss _ _ hrest' => exact ih hrest'
      | enter hentry => exact absurd hentry (hrule.ne_include _)
  | enter hentry hnumber _ ih =>
      cases h' with
      | hit hrule' => exact absurd hentry (hrule'.ne_include _)
      | miss hrule' => exact absurd hentry (hrule'.ne_include _)
      | enter hentry' hnumber' hrest' =>
          obtain rfl := number_unique hentry hnumber hentry' hnumber'
          exact ih hrest'

-- The walk meets the rules of the expansion in their order, and then goes on behind them.
theorem Expands.walks {rules : List Rule} (h : grammar.Expands id sources rules)
    {rest : List Source} {won : Option (Rule × Match)} (hrest : grammar.Walks id place rest won) :
    grammar.Walks id place (sources ++ rest) ((Scan.winner? rules place).or won) := by
  induction h generalizing rest won with
  | nil => exact hrest
  | @rule source sources own rules hown _ ih =>
      rw [Scan.winner?, List.findSome?_cons]
      cases hmatch : own.pattern.matchAt place with
      | some found => exact .hit hown hmatch
      | none => exact .miss hown hmatch (ih hrest)
  | @«include» source sources target number more rules hentry hnumber _ _ ihmore ih =>
      have hboth := ihmore (ih hrest)
      rw [Scan.winner?, List.findSome?_append, Option.or_assoc]
      exact .enter hentry hnumber hboth

theorem Expands.walks_iff {rules : List Rule} (h : grammar.Expands id sources rules)
    {won : Option (Rule × Match)} :
    grammar.Walks id place sources won ↔ won = Scan.winner? rules place := by
  have hwalks : grammar.Walks id place sources (Scan.winner? rules place) := by
    have hwalks : grammar.Walks id place (sources ++ []) _ := h.walks .nil
    rwa [List.append_nil, Option.or_none] at hwalks
  constructor
  · intro hwon
    exact hwon.unique hwalks
  · rintro rfl
    exact hwalks

end Unique

section Declared

variable {origin : StateId} {place : Nat} {declared : List (List Slot)}

-- The name of a state only shows in errors.
theorem RuleAs.compileRule_eq {decl : RuleDecl} {rule : Rule}
    (h : grammar.RuleAs id origin place decl rule) (state : String) :
    grammar.compileRule id state origin place decl = .ok rule := by
  have hpattern : grammar.compilePattern state decl.pattern = .ok rule.pattern := by
    rw [compilePattern, h.pattern]
  have hops : decl.transition.ops.mapM (grammar.compileOp state decl.pattern) = .ok rule.ops := by
    apply mapM_eq_ok.mpr
    apply h.ops.imp
    intro op compiled hop
    cases hop with
    | push hnumber => rw [compileOp, stateId, hnumber]; rfl
    | pushCurrent => rfl
    | @pop count hcount =>
        obtain ⟨less, rfl⟩ := Nat.exists_eq_succ_of_ne_zero hcount
        rfl
  have hgroups : grammar.checkGroups state decl rule.pattern = .ok () := by
    unfold checkGroups
    split
    case h_1 parts haction => exact if_neg (Nat.not_lt.mpr (h.groups parts haction))
    case h_2 => rfl
  have hmoves : ¬ (rule.ops.isEmpty && rule.pattern.matchesEmpty) = true := by
    intro hstuck
    obtain ⟨hnil, hempty⟩ := Bool.and_eq_true_iff.mp hstuck
    rw [h.moves (List.isEmpty_iff.mp hnil)] at hempty
    contradiction
  obtain ⟨pattern, action, ops, start⟩ := rule
  obtain rfl : start = origin := h.origin
  obtain rfl := h.action
  rw [compileRule, hpattern]
  simp only [bind, Except.bind, hops, hgroups, if_neg hmoves]
  rfl

theorem compilePattern_ok {state source : String} {pattern : Pattern}
    (h : grammar.compilePattern state source = .ok pattern) :
    Pattern.compile source grammar.flags = .ok pattern := by
  unfold compilePattern at h
  split at h
  case h_1 hcompile => rwa [Except.ok.inj h] at hcompile
  case h_2 => contradiction

theorem compileOp_ok {state source : String} {stackOp : StackOp} {op : Op}
    (h : grammar.compileOp state source stackOp = .ok op) : grammar.OpAs stackOp op := by
  unfold compileOp at h
  split at h
  case h_1 target =>
    unfold stateId at h
    split at h
    case h_1 number hnumber =>
      obtain rfl := Except.ok.inj h
      exact .push hnumber
    case h_2 => contradiction
  case h_2 =>
    obtain rfl := Except.ok.inj h
    exact .pushCurrent
  case h_3 => contradiction
  case h_4 =>
    obtain rfl := Except.ok.inj h
    exact .pop (Nat.succ_ne_zero _)

theorem checkGroups_ok {state : String} {decl : RuleDecl} {pattern : Pattern}
    (h : grammar.checkGroups state decl pattern = .ok ()) {parts : List (Part Delegation)}
    (haction : decl.action = .groups parts) : parts.length ≤ pattern.groupCount := by
  rw [checkGroups, haction] at h
  dsimp only at h
  split at h
  case isTrue => contradiction
  case isFalse hle => exact Nat.le_of_not_lt hle

-- What a rule is compiled to does not depend on where else it stands.
theorem RuleAs.of_compileRule {state : String} {decl : RuleDecl} {rule : Rule}
    (h : grammar.compileRule id state origin place decl = .ok rule) :
    grammar.RuleAs id origin place decl rule := by
  obtain ⟨pattern, hpattern, h⟩ := bind_eq_ok.mp h
  obtain ⟨ops, hops, h⟩ := bind_eq_ok.mp h
  obtain ⟨checked, hgroups, h⟩ := bind_eq_ok.mp h
  split at h
  case isTrue => contradiction
  case isFalse hmoves =>
    obtain rfl := pure_eq_ok.mp h
    refine ⟨compilePattern_ok hpattern, (mapM_eq_ok.mp hops).imp fun _ _ hop => compileOp_ok hop,
      rfl, fun _ haction => checkGroups_ok hgroups haction, ?_, rfl⟩
    intro hnil
    dsimp only at hnil
    simpa [hnil] using hmoves

theorem SlotsAs.of_cons {entries : List Entry} {slot : Slot} {slots : List Slot}
    (h : grammar.SlotsAs id origin place entries (slot :: slots)) :
    ∃ entry rest, entries = entry :: rest ∧ grammar.SlotAs id origin place entry slot ∧
      grammar.SlotsAs id origin (place + 1) rest slots := by
  obtain ⟨hlength, hslots⟩ := h
  cases entries with
  | nil => contradiction
  | cons entry rest =>
      obtain ⟨slot', hfirst, hslot⟩ := hslots 0 entry rfl
      obtain rfl := Option.some.inj hfirst
      refine ⟨entry, rest, rfl, hslot, Nat.succ.inj hlength, ?_⟩
      intro i other hget
      rw [Nat.add_assoc, Nat.add_comm 1 i]
      exact hslots (i + 1) other hget

theorem DeclaredAs.stateNames_length (h : grammar.DeclaredAs id 0 grammar.states declared) :
    grammar.stateNames.length = declared.length := by
  rw [h.length]
  exact List.length_map _

-- What slots are spliced to is the expansion of the entries that they stand for.
theorem DeclaredAs.expands_from (h : grammar.DeclaredAs id 0 grammar.states declared)
    {slots : List Slot} {rules : List Rule} (hspliced : Slot.Spliced declared slots rules)
    {name : String} (hname : grammar.stateNames[origin]? = some name) {entries : List Entry}
    (hslots : grammar.SlotsAs id origin place entries slots) :
    grammar.Expands id (sourcesFrom origin place entries) rules := by
  induction hspliced generalizing origin place name entries with
  | nil =>
      obtain rfl := List.length_eq_zero_iff.mp hslots.length.symm
      exact .nil
  | rule _ ih =>
      obtain ⟨entry, rest, rfl, hslot, hrest⟩ := hslots.of_cons
      cases hslot with
      | rule hdecl hrule =>
          exact .rule ⟨name, _, hname, hdecl, hrule.compileRule_eq name⟩ (ih hname hrest)
  | @«include» number included more slots rules htarget _ _ ihmore ih =>
      obtain ⟨entry, rest, rfl, hslot, hrest⟩ := hslots.of_cons
      cases hslot with
      | @«include» target _ hnumber =>
          obtain ⟨⟨other, own⟩, hstate⟩ : ∃ state, grammar.states[number]? = some state :=
            ⟨_, List.getElem?_eq_getElem hnumber.lt⟩
          obtain ⟨included', htarget', hown⟩ := h.slots number other own hstate
          obtain rfl := Option.some.inj (htarget.symm.trans htarget')
          rw [Nat.zero_add] at hown
          have hmore := ihmore hnumber.name? hown
          have hsources : grammar.sources number = sourcesFrom number 0 own := by
            rw [sources, hstate]
          rw [← hsources] at hmore
          exact .include rfl hnumber hmore (ih hname hrest)

-- Splicing slots is an expansion of the entries that they were compiled from.
theorem DeclaredAs.expands (h : grammar.DeclaredAs id 0 grammar.states declared)
    {rules : List Rule} (hspliced : Slot.SplicedAt declared origin rules) :
    grammar.Expands id (grammar.sources origin) rules := by
  obtain ⟨slots, hslots, hrules⟩ := hspliced
  obtain ⟨hlt, -⟩ := List.getElem?_eq_some_iff.mp hslots
  obtain ⟨⟨name, entries⟩, hstate⟩ : ∃ state, grammar.states[origin]? = some state :=
    ⟨_, List.getElem?_eq_getElem (h.length ▸ hlt)⟩
  obtain ⟨slots', hslots', hown⟩ := h.slots origin name entries hstate
  obtain rfl := Option.some.inj (hslots.symm.trans hslots')
  rw [Nat.zero_add] at hown
  have hname : grammar.stateNames[origin]? = some name := by
    simp [stateNames, hstate]
  rw [sources, hstate]
  exact h.expands_from hrules hname hown

end Declared

end Grammar

end StackLexer
