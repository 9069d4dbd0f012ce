import Mathlib.Data.String.Basic
import StackLexer.Proofs.Table.Relocation

namespace StackLexer

-- What a rule calls the states of the lexers that it can name, its own among them.
abbrev Labels := LexerName → String → String

def StackOp.rename (labels : Labels) : StackOp → StackOp
  | .push state => .push (labels .this state)
  | .pushCurrent => .pushCurrent
  | .pop count => .pop count

def Transition.rename (labels : Labels) (transition : Transition) : Transition :=
  ⟨transition.ops.map (StackOp.rename labels)⟩

def Delegation.rename (labels : Labels) (delegation : Delegation) : Delegation :=
  { delegation with state? := delegation.state?.map (labels delegation.target) }

def RuleDecl.rename (labels : Labels) (decl : RuleDecl) : RuleDecl where
  pattern := decl.pattern
  action := decl.action.map (Delegation.rename labels)
  transition := decl.transition.rename labels

def Entry.rename (labels : Labels) : Entry → Entry
  | .rule decl => .rule (decl.rename labels)
  | .include state => .include (labels .this state)
  | .default transition => .default (transition.rename labels)

namespace Grammar

def renameState (labels : Labels) (state : String × List Entry) : String × List Entry :=
  (labels .this state.1, state.2.map (Entry.rename labels))

-- Every state is put in its place again.
def placeStates (states : List (String × List Entry)) : List (String × List Entry) :=
  states.foldr (fun state placed => insertState state.1 state.2 placed) []

theorem placeStates_inOrder (states : List (String × List Entry)) :
    ((placeStates states).map (·.1)).Pairwise (· < ·) := by
  induction states with
  | nil => exact .nil
  | cons state states ih => exact insertState_inOrder ih

-- The states then stand in the order of their new names.
def rename (labels : Labels) (grammar : Grammar) : Grammar where
  name := grammar.name
  aliases := grammar.aliases
  flags := grammar.flags
  states := placeStates (grammar.states.map (renameState labels))
  inOrder := placeStates_inOrder _

-- One grammar is the other with new names for its states, in any order of states.
structure Renamed (labels : Labels) (grammar grammar' : Grammar) : Prop where
  name : grammar'.name = grammar.name
  aliases : grammar'.aliases = grammar.aliases
  flags : grammar'.flags = grammar.flags
  states : grammar'.states.Perm (grammar.states.map (renameState labels))
  injective : Function.Injective (labels .this)
  root : labels .this rootName = rootName

variable {grammar grammar' : Grammar} {labels : Labels}

theorem stateNames_nodup (grammar : Grammar) : grammar.stateNames.Nodup :=
  List.Pairwise.imp (fun hlt => ne_of_lt hlt) grammar.inOrder

section Place

variable {name : String} {entries : List Entry} {states : List (String × List Entry)}

-- A state of a new name comes to those that are there.
theorem insertState_perm (hfresh : name ∉ states.map (·.1)) :
    (insertState name entries states).Perm ((name, entries) :: states) := by
  fun_induction insertState name entries states with
  | case1 => exact .refl _
  | case2 => simp at hfresh
  | case3 => exact .refl _
  | case4 other otherEntries rest _ _ ih =>
      have hrest := ih fun hmem => hfresh (List.mem_cons_of_mem _ hmem)
      exact (hrest.cons _).trans (.swap _ _ _)

theorem placeStates_perm (hnodup : (states.map (·.1)).Nodup) :
    (placeStates states).Perm states := by
  induction states with
  | nil => exact .refl _
  | cons state states ih =>
      obtain ⟨hfresh, hrest⟩ := List.nodup_cons.mp hnodup
      have hplaced := ih hrest
      have hfresh' : state.1 ∉ (placeStates states).map (·.1) :=
        fun hmem => hfresh ((hplaced.map _).mem_iff.mp hmem)
      exact (insertState_perm hfresh').trans (hplaced.cons _)

end Place

theorem renameState_names (labels : Labels) (grammar : Grammar) :
    (grammar.states.map (renameState labels)).map (·.1) =
      grammar.stateNames.map (labels .this) := by
  rw [stateNames, List.map_map, List.map_map]
  rfl

theorem renamed_rename (grammar : Grammar) (hinjective : Function.Injective (labels .this))
    (hroot : labels .this rootName = rootName) :
    grammar.Renamed labels (grammar.rename labels) where
  name := rfl
  aliases := rfl
  flags := rfl
  states := by
    apply placeStates_perm
    rw [renameState_names]
    exact grammar.stateNames_nodup.map hinjective
  injective := hinjective
  root := hroot

end Grammar

theorem Entry.rename_rule? (labels : Labels) (entry : Entry) :
    (entry.rename labels).rule? = entry.rule?.map (RuleDecl.rename labels) := by
  cases entry <;> rfl

section Action

variable {δ ε ζ : Type}

-- Parts of an action that are delegations stay so.
theorem Action.map_eq_delegate {action : Action δ} {f : δ → ε} {changed : ε} :
    action.map f = .delegate changed ↔ ∃ delegation, action = .delegate delegation ∧
      f delegation = changed := by
  cases action <;> simp [Action.map]

theorem Action.map_eq_groups {action : Action δ} {f : δ → ε} {changed : List (Part ε)} :
    action.map f = .groups changed ↔ ∃ parts, action = .groups parts ∧
      parts.map (Part.map f) = changed := by
  cases action <;> simp [Action.map]

theorem Part.map_eq_delegate {part : Part δ} {f : δ → ε} {changed : ε} :
    part.map f = .delegate changed ↔ ∃ delegation, part = .delegate delegation ∧
      f delegation = changed := by
  cases part <;> simp [Part.map]

end Action

namespace Transition

variable {labels : Labels} {transition : Transition}

theorem push_mem_rename {target' : String} :
    .push target' ∈ (transition.rename labels).ops ↔
      ∃ target, .push target ∈ transition.ops ∧ labels .this target = target' := by
  rw [rename, List.mem_map]
  constructor
  · rintro ⟨op, hop, heq⟩
    cases op with
    | push target => exact ⟨target, hop, StackOp.push.inj heq⟩
    | pushCurrent => contradiction
    | pop count => contradiction
  · rintro ⟨target, hop, rfl⟩
    exact ⟨.push target, hop, rfl⟩

theorem pop_mem_rename {count : Nat} :
    .pop count ∈ (transition.rename labels).ops ↔ .pop count ∈ transition.ops := by
  rw [rename, List.mem_map]
  constructor
  · rintro ⟨op, hop, heq⟩
    cases op with
    | push target => contradiction
    | pushCurrent => contradiction
    | pop other =>
        obtain rfl := StackOp.pop.inj heq
        exact hop
  · intro hop
    exact ⟨.pop count, hop, rfl⟩

end Transition

namespace Grammar.Renamed

variable {grammar grammar' : Grammar} {labels : Labels}

theorem names (h : grammar.Renamed labels grammar') : grammar'.names = grammar.names := by
  rw [Grammar.names, Grammar.names, h.name, h.aliases]

theorem stateNames_perm (h : grammar.Renamed labels grammar') :
    grammar'.stateNames.Perm (grammar.stateNames.map (labels .this)) := by
  rw [← renameState_names]
  exact h.states.map _

theorem mem_stateNames (h : grammar.Renamed labels grammar') {state : String} :
    labels .this state ∈ grammar'.stateNames ↔ state ∈ grammar.stateNames := by
  rw [h.stateNames_perm.mem_iff, List.mem_map_of_injective h.injective]

-- What the renamed grammar has is what the other one has, under the new names.
theorem hasEntry_iff (h : grammar.Renamed labels grammar') {state' : String} {entry' : Entry} :
    grammar'.HasEntry state' entry' ↔ ∃ state entry, grammar.HasEntry state entry ∧
      labels .this state = state' ∧ entry.rename labels = entry' := by
  constructor
  · rintro ⟨entries', hmem, hentry⟩
    obtain ⟨⟨state, entries⟩, hstate, heq⟩ := List.mem_map.mp (h.states.mem_iff.mp hmem)
    obtain ⟨rfl, rfl⟩ := Prod.mk.inj heq
    obtain ⟨entry, hown, rfl⟩ := List.mem_map.mp hentry
    exact ⟨state, entry, ⟨entries, hstate, hown⟩, rfl, rfl⟩
  · rintro ⟨state, entry, ⟨entries, hstate, hentry⟩, rfl, rfl⟩
    exact ⟨entries.map (Entry.rename labels), h.states.mem_iff.mpr (List.mem_map_of_mem hstate),
      List.mem_map_of_mem hentry⟩

theorem hasRule_iff (h : grammar.Renamed labels grammar') {state' : String} {decl' : RuleDecl} :
    grammar'.HasRule state' decl' ↔ ∃ state decl, grammar.HasRule state decl ∧
      labels .this state = state' ∧ decl.rename labels = decl' := by
  constructor
  · rintro ⟨entry', hentry', hdecl'⟩
    obtain ⟨state, entry, hentry, rfl, rfl⟩ := h.hasEntry_iff.mp hentry'
    rw [Entry.rename_rule?] at hdecl'
    obtain ⟨decl, hdecl, rfl⟩ := Option.map_eq_some_iff.mp hdecl'
    exact ⟨state, decl, ⟨entry, hentry, hdecl⟩, rfl, rfl⟩
  · rintro ⟨state, decl, ⟨entry, hentry, hdecl⟩, rfl, rfl⟩
    refine ⟨entry.rename labels, h.hasEntry_iff.mpr ⟨state, entry, hentry, rfl, rfl⟩, ?_⟩
    rw [Entry.rename_rule?, hdecl]
    rfl

theorem hasDelegation_iff (h : grammar.Renamed labels grammar') {delegation' : Delegation} :
    grammar'.HasDelegation delegation' ↔ ∃ delegation, grammar.HasDelegation delegation ∧
      delegation.rename labels = delegation' := by
  constructor
  · rintro ⟨state', decl', hentry', haction⟩
    obtain ⟨state, entry, hentry, rfl, heq⟩ := h.hasEntry_iff.mp hentry'
    cases entry with
    | rule decl =>
        obtain rfl := Entry.rule.inj heq
        rcases haction with haction | ⟨parts', haction, hmem⟩
        · obtain ⟨delegation, hown, rfl⟩ := Action.map_eq_delegate.mp haction
          exact ⟨delegation, ⟨state, decl, hentry, .inl hown⟩, rfl⟩
        · obtain ⟨parts, hown, rfl⟩ := Action.map_eq_groups.mp haction
          obtain ⟨part, hpart, heq⟩ := List.mem_map.mp hmem
          obtain ⟨delegation, rfl, rfl⟩ := Part.map_eq_delegate.mp heq
          exact ⟨delegation, ⟨state, decl, hentry, .inr ⟨parts, hown, hpart⟩⟩, rfl⟩
    | default transition => contradiction
    | «include» target => contradiction
  · rintro ⟨delegation, ⟨state, decl, hentry, haction⟩, rfl⟩
    refine ⟨labels .this state, decl.rename labels,
      h.hasEntry_iff.mpr ⟨state, .rule decl, hentry, rfl, rfl⟩, ?_⟩
    rcases haction with haction | ⟨parts, haction, hmem⟩
    · exact .inl (Action.map_eq_delegate.mpr ⟨delegation, haction, rfl⟩)
    · refine .inr ⟨_, Action.map_eq_groups.mpr ⟨parts, haction, rfl⟩, ?_⟩
      exact List.mem_map.mpr ⟨_, hmem, rfl⟩

-- A rule pushes states of the grammar if it did before; nothing else of it has changed.
theorem accepts_iff (h : grammar.Renamed labels grammar') {decl : RuleDecl} :
    grammar'.Accepts (decl.rename labels) ↔ grammar.Accepts decl := by
  have hops : (decl.rename labels).transition.ops = [] ↔ decl.transition.ops = [] :=
    List.map_eq_nil_iff
  constructor
  · rintro ⟨hpattern, hpushes, hpops, hgroups, hmoves⟩
    rw [h.flags] at hpattern hgroups hmoves
    refine ⟨hpattern, ?_, fun hpop => hpops (Transition.pop_mem_rename.mpr hpop), ?_, ?_⟩
    · intro target hpush
      exact h.mem_stateNames.mp (hpushes _ (Transition.push_mem_rename.mpr ⟨target, hpush, rfl⟩))
    · intro pattern parts hcompile haction
      have hle := hgroups pattern _ hcompile (Action.map_eq_groups.mpr ⟨parts, haction, rfl⟩)
      rwa [List.length_map] at hle
    · intro pattern hcompile hnil
      exact hmoves pattern hcompile (hops.mpr hnil)
  · rintro ⟨hpattern, hpushes, hpops, hgroups, hmoves⟩
    rw [← h.flags] at hpattern hgroups hmoves
    refine ⟨hpattern, ?_, fun hpop => hpops (Transition.pop_mem_rename.mp hpop), ?_, ?_⟩
    · intro target' hpush
      obtain ⟨target, hown, rfl⟩ := Transition.push_mem_rename.mp hpush
      exact h.mem_stateNames.mpr (hpushes target hown)
    · intro pattern parts' hcompile haction
      obtain ⟨parts, hown, rfl⟩ := Action.map_eq_groups.mp haction
      rw [List.length_map]
      exact hgroups pattern parts hcompile hown
    · intro pattern hcompile hnil
      exact hmoves pattern hcompile (hops.mp hnil)

end Grammar.Renamed

namespace Grammar

variable {grammar grammar' : Grammar} {labels : Labels}

-- As names differ, every state has the number of its own.
theorem numbers_of_name {name : String} {i : StateId}
    (hname : grammar.stateNames[i]? = some name) : grammar.Numbers name i := by
  obtain ⟨j, hj⟩ := exists_numbers (List.mem_of_getElem? hname)
  obtain ⟨hlt, -⟩ := List.getElem?_eq_some_iff.mp hname
  obtain rfl := (List.getElem?_inj hlt grammar.stateNames_nodup).mp (hname.trans hj.name?.symm)
  exact hj

theorem numbers_of_state {state : String × List Entry} {i : StateId}
    (hstate : grammar.states[i]? = some state) : grammar.Numbers state.1 i := by
  apply numbers_of_name
  rw [stateNames, List.getElem?_map, hstate]
  rfl

-- And a state takes in what any of its entries includes.
theorem includes_iff {source target : String} :
    grammar.Includes source target ↔ grammar.HasEntry source (.include target) := by
  constructor
  · rintro ⟨entries, hlookup, hmem⟩
    obtain ⟨before, after, hsplit, -⟩ := List.lookup_eq_some_iff.mp hlookup
    exact ⟨entries, by simp [hsplit], hmem⟩
  · rintro ⟨entries, hstate, hmem⟩
    obtain ⟨i, hi⟩ := List.mem_iff_getElem?.mp hstate
    exact ⟨entries, (numbers_of_state hi).lookup hi, hmem⟩

namespace Renamed

theorem includes_iff (h : grammar.Renamed labels grammar') {source' target' : String} :
    grammar'.Includes source' target' ↔ ∃ source target, grammar.Includes source target ∧
      labels .this source = source' ∧ labels .this target = target' := by
  rw [Grammar.includes_iff, h.hasEntry_iff]
  constructor
  · rintro ⟨source, entry, hentry, rfl, heq⟩
    cases entry with
    | «include» target =>
        have hincludes := Grammar.includes_iff.mpr hentry
        exact ⟨source, target, hincludes, rfl, Entry.include.inj heq⟩
    | rule decl => contradiction
    | default transition => contradiction
  · rintro ⟨source, target, hincludes, rfl, rfl⟩
    exact ⟨source, .include target, Grammar.includes_iff.mp hincludes, rfl, rfl⟩

-- A chain of includes under the new names is one under the old names.
theorem transGen_iff (h : grammar.Renamed labels grammar') {source' target' : String} :
    Relation.TransGen grammar'.Includes source' target' ↔
      ∃ source target, Relation.TransGen grammar.Includes source target ∧
        labels .this source = source' ∧ labels .this target = target' := by
  constructor
  · intro hchain
    induction hchain with
    | single hstep =>
        obtain ⟨source, target, hstep, hsource, htarget⟩ := h.includes_iff.mp hstep
        exact ⟨source, target, .single hstep, hsource, htarget⟩
    | tail _ hstep ih =>
        obtain ⟨source, between, hchain, hsource, rfl⟩ := ih
        obtain ⟨between', target, hlast, heq, htarget⟩ := h.includes_iff.mp hstep
        obtain rfl := h.injective heq
        exact ⟨source, target, hchain.tail hlast, hsource, htarget⟩
  · rintro ⟨source, target, hchain, rfl, rfl⟩
    apply hchain.lift
    intro source target hstep
    exact h.includes_iff.mpr ⟨source, target, hstep, rfl, rfl⟩

theorem acyclic_iff (h : grammar.Renamed labels grammar') :
    (∀ state, ¬ Relation.TransGen grammar'.Includes state state) ↔
      ∀ state, ¬ Relation.TransGen grammar.Includes state state := by
  constructor
  · intro hacyclic state hloop
    exact hacyclic _ (h.transGen_iff.mpr ⟨state, state, hloop, rfl, rfl⟩)
  · intro hacyclic state' hloop
    obtain ⟨state, other, hown, rfl, heq⟩ := h.transGen_iff.mp hloop
    obtain rfl := h.injective heq
    exact hacyclic other hown

theorem wellFormed_iff (h : grammar.Renamed labels grammar') :
    grammar'.WellFormed ↔ grammar.WellFormed := by
  have hroot : rootName ∈ grammar'.stateNames ↔ rootName ∈ grammar.stateNames := by
    rw [← h.mem_stateNames, h.root]
  constructor
  · rintro ⟨hmem, hrules, hincludes, hacyclic⟩
    refine ⟨hroot.mp hmem, ?_, ?_, h.acyclic_iff.mp hacyclic⟩
    · intro state decl hrule
      exact h.accepts_iff.mp (hrules _ _ (h.hasRule_iff.mpr ⟨state, decl, hrule, rfl, rfl⟩))
    · intro source target hentry
      have hentry' := h.hasEntry_iff.mpr ⟨source, .include target, hentry, rfl, rfl⟩
      exact h.mem_stateNames.mp (hincludes _ _ hentry')
  · rintro ⟨hmem, hrules, hincludes, hacyclic⟩
    refine ⟨hroot.mpr hmem, ?_, ?_, h.acyclic_iff.mpr hacyclic⟩
    · intro state' decl' hrule'
      obtain ⟨state, decl, hrule, rfl, rfl⟩ := h.hasRule_iff.mp hrule'
      exact h.accepts_iff.mpr (hrules state decl hrule)
    · intro source' target' hentry'
      obtain ⟨source, entry, hentry, rfl, heq⟩ := h.hasEntry_iff.mp hentry'
      cases entry with
      | «include» target =>
          obtain rfl := Entry.include.inj heq
          exact h.mem_stateNames.mpr (hincludes source target hentry)
      | rule decl => contradiction
      | default transition => contradiction

end Renamed

end Grammar

-- A function on the names of states for each grammar of a list.
abbrev Renaming := TableId → String → String

namespace TableSet

-- The first grammar that has a name, by its number.
def holder? (grammars : List Grammar) (name : String) : Option TableId :=
  grammars.findIdx? fun grammar => grammar.names.contains name

-- The grammar that a rule of the grammar `id` names.
def target? (grammars : List Grammar) (id : TableId) : LexerName → Option TableId
  | .this => some id
  | .named name => holder? grammars name

-- The states of a lexer that is not in the list keep their names.
def labels (renames : Renaming) (grammars : List Grammar) (id : TableId) : Labels :=
  fun name => ((target? grammars id name).map renames).getD fun state => state

-- A new name comes wherever a state is named: where it is declared, included or pushed, and where a
-- delegation starts with it.
def renameAll (renames : Renaming) (grammars : List Grammar) : List Grammar :=
  grammars.mapIdx fun id grammar => grammar.rename (labels renames grammars id)

structure Renamed (renames : Renaming) (grammars grammars' : List Grammar) : Prop where
  length : grammars'.length = grammars.length
  each : ∀ id (grammar : Grammar), grammars[id]? = some grammar →
    ∃ grammar', grammars'[id]? = some grammar' ∧
      grammar.Renamed (labels renames grammars id) grammar'

variable {grammars grammars' : List Grammar} {renames : Renaming}

theorem renamed_renameAll (hinjective : ∀ id, Function.Injective (renames id))
    (hroot : ∀ id, renames id Grammar.rootName = Grammar.rootName) :
    Renamed renames grammars (renameAll renames grammars) where
  length := List.length_mapIdx
  each id grammar hgrammar := by
    refine ⟨grammar.rename (labels renames grammars id), ?_, ?_⟩
    · rw [renameAll, List.getElem?_mapIdx, hgrammar]
      rfl
    · exact grammar.renamed_rename (hinjective id) (hroot id)

section Holder

variable {name : String} {i j : TableId} {grammar other : Grammar}

theorem holder?_eq_some_iff (hnames : (grammars.flatMap Grammar.names).Nodup) :
    holder? grammars name = some i ↔ ∃ grammar, grammars[i]? = some grammar ∧
      name ∈ grammar.names := by
  constructor
  · intro hholder
    obtain ⟨hlt, hname, -⟩ := List.findIdx?_eq_some_iff_getElem.mp hholder
    exact ⟨_, List.getElem?_eq_getElem hlt, List.contains_iff_mem.mp hname⟩
  · rintro ⟨grammar, hgrammar, hname⟩
    have hsome : (holder? grammars name).isSome := by
      rw [holder?, List.findIdx?_isSome]
      exact List.any_eq_true.mpr
        ⟨grammar, List.mem_of_getElem? hgrammar, List.contains_iff_mem.mpr hname⟩
    obtain ⟨j, hholder⟩ := Option.isSome_iff_exists.mp hsome
    obtain ⟨hlt, hname', -⟩ := List.findIdx?_eq_some_iff_getElem.mp hholder
    have hsame := number_eq_of_mem_names hnames (List.getElem?_eq_getElem hlt)
      (List.contains_iff_mem.mp hname') hgrammar hname
    rw [hholder, hsame]

theorem leadsTo_iff (hnames : (grammars.flatMap Grammar.names).Nodup)
    (hgrammar : grammars[i]? = some grammar) {target : LexerName} :
    LeadsTo grammars grammar target other ↔
      ∃ j, target? grammars i target = some j ∧ grammars[j]? = some other := by
  cases target with
  | this =>
      simp only [LeadsTo, target?, Option.some.injEq, exists_eq_left', hgrammar]
      exact eq_comm
  | named name =>
      simp only [LeadsTo, target?, holder?_eq_some_iff hnames]
      constructor
      · rintro ⟨hmem, hname⟩
        obtain ⟨j, hj⟩ := List.mem_iff_getElem?.mp hmem
        exact ⟨j, ⟨other, hj, hname⟩, hj⟩
      · rintro ⟨j, ⟨found, hfound, hname⟩, hj⟩
        obtain rfl := Option.some.inj (hfound.symm.trans hj)
        exact ⟨List.mem_of_getElem? hj, hname⟩

end Holder

namespace Renamed

-- The renamed grammar in a place stands for one in the same place.
theorem each' (h : Renamed renames grammars grammars') {id : TableId} {grammar' : Grammar}
    (hgrammar' : grammars'[id]? = some grammar') :
    ∃ grammar, grammars[id]? = some grammar ∧
      grammar.Renamed (labels renames grammars id) grammar' := by
  obtain ⟨hlt, -⟩ := List.getElem?_eq_some_iff.mp hgrammar'
  have hgrammar := List.getElem?_eq_getElem (h.length ▸ hlt)
  obtain ⟨found, hfound, hrenamed⟩ := h.each id _ hgrammar
  obtain rfl := Option.some.inj (hgrammar'.symm.trans hfound)
  exact ⟨_, hgrammar, hrenamed⟩

theorem names (h : Renamed renames grammars grammars') :
    grammars'.map Grammar.names = grammars.map Grammar.names := by
  apply List.ext_getElem?
  intro id
  rw [List.getElem?_map, List.getElem?_map]
  cases hgrammar : grammars[id]? with
  | some grammar =>
      obtain ⟨grammar', hgrammar', hrenamed⟩ := h.each id grammar hgrammar
      rw [hgrammar', Option.map_some, Option.map_some, hrenamed.names]
  | none =>
      rw [List.getElem?_eq_none_iff, ← h.length, ← List.getElem?_eq_none_iff] at hgrammar
      rw [hgrammar]

theorem flatMap_names (h : Renamed renames grammars grammars') :
    grammars'.flatMap Grammar.names = grammars.flatMap Grammar.names := by
  rw [List.flatMap_def, List.flatMap_def, h.names]

theorem target?_eq (h : Renamed renames grammars grammars') (id : TableId) (name : LexerName) :
    target? grammars' id name = target? grammars id name := by
  cases name with
  | this => rfl
  | named name =>
      have hmap : ∀ list : List Grammar,
          holder? list name = (list.map Grammar.names).findIdx? (·.contains name) := by
        intro list
        rw [List.findIdx?_map]
        rfl
      rw [target?, target?, hmap, hmap, h.names]

-- The grammar that a delegation leads to has new names for the states that the delegation names.
theorem start_iff (h : Renamed renames grammars grammars')
    (hnames : (grammars.flatMap Grammar.names).Nodup) {id : TableId} {grammar grammar' : Grammar}
    (hgrammar : grammars[id]? = some grammar) (hgrammar' : grammars'[id]? = some grammar')
    (delegation : Delegation) :
    (∃ target, LeadsTo grammars' grammar' delegation.target target ∧
      ∀ state ∈ (delegation.rename (labels renames grammars id)).state?,
        state ∈ target.stateNames) ↔
    ∃ target, LeadsTo grammars grammar delegation.target target ∧
      ∀ state ∈ delegation.state?, state ∈ target.stateNames := by
  have hnames' : (grammars'.flatMap Grammar.names).Nodup := by
    rw [h.flatMap_names]
    exact hnames
  have hstates : ∀ {j : TableId} {target target' : Grammar},
      target? grammars id delegation.target = some j →
      target.Renamed (labels renames grammars j) target' →
      ((∀ state ∈ (delegation.rename (labels renames grammars id)).state?,
        state ∈ target'.stateNames) ↔
      ∀ state ∈ delegation.state?, state ∈ target.stateNames) := by
    intro j target target' hj htarget
    have hlabel : labels renames grammars id delegation.target =
        labels renames grammars j .this := by
      rw [labels, hj]
      rfl
    rw [Delegation.rename, hlabel]
    cases delegation.state? with
    | none => simp
    | some state => simpa using htarget.mem_stateNames
  simp only [leadsTo_iff hnames hgrammar, leadsTo_iff hnames' hgrammar', h.target?_eq]
  constructor
  · rintro ⟨target', ⟨j, hj, htarget'⟩, hstate⟩
    obtain ⟨target, htarget, hrenamed⟩ := h.each' htarget'
    exact ⟨target, ⟨j, hj, htarget⟩, (hstates hj hrenamed).mp hstate⟩
  · rintro ⟨target, ⟨j, hj, htarget⟩, hstate⟩
    obtain ⟨target', htarget', hrenamed⟩ := h.each j target htarget
    exact ⟨target', ⟨j, hj, htarget'⟩, (hstates hj hrenamed).mpr hstate⟩

theorem wellFormed_iff (h : Renamed renames grammars grammars') :
    WellFormed grammars' ↔ WellFormed grammars := by
  constructor
  · rintro ⟨hnames, heach, hdelegations⟩
    rw [h.flatMap_names] at hnames
    refine ⟨hnames, ?_, ?_⟩
    · intro grammar hmem
      obtain ⟨id, hgrammar⟩ := List.mem_iff_getElem?.mp hmem
      obtain ⟨grammar', hgrammar', hrenamed⟩ := h.each id grammar hgrammar
      exact hrenamed.wellFormed_iff.mp (heach grammar' (List.mem_of_getElem? hgrammar'))
    · intro grammar hmem delegation hdelegation
      obtain ⟨id, hgrammar⟩ := List.mem_iff_getElem?.mp hmem
      obtain ⟨grammar', hgrammar', hrenamed⟩ := h.each id grammar hgrammar
      apply (h.start_iff hnames hgrammar hgrammar' delegation).mp
      exact hdelegations grammar' (List.mem_of_getElem? hgrammar') _
        (hrenamed.hasDelegation_iff.mpr ⟨delegation, hdelegation, rfl⟩)
  · rintro ⟨hnames, heach, hdelegations⟩
    refine ⟨h.flatMap_names ▸ hnames, ?_, ?_⟩
    · intro grammar' hmem
      obtain ⟨id, hgrammar'⟩ := List.mem_iff_getElem?.mp hmem
      obtain ⟨grammar, hgrammar, hrenamed⟩ := h.each' hgrammar'
      exact hrenamed.wellFormed_iff.mpr (heach grammar (List.mem_of_getElem? hgrammar))
    · intro grammar' hmem delegation' hdelegation'
      obtain ⟨id, hgrammar'⟩ := List.mem_iff_getElem?.mp hmem
      obtain ⟨grammar, hgrammar, hrenamed⟩ := h.each' hgrammar'
      obtain ⟨delegation, hdelegation, rfl⟩ := hrenamed.hasDelegation_iff.mp hdelegation'
      apply (h.start_iff hnames hgrammar hgrammar' delegation).mpr
      exact hdelegations grammar (List.mem_of_getElem? hgrammar) delegation hdelegation

end Renamed

end TableSet

end StackLexer
