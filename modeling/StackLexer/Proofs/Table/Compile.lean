import StackLexer.Proofs.Outcome
import StackLexer.Proofs.Table.Defect

namespace StackLexer

namespace Grammar

variable {grammar : Grammar} {id : TableId} {state : String} {origin : StateId}

-- The number of a state is that of the first state with its name.
def Numbers (grammar : Grammar) (target : String) (number : StateId) : Prop :=
  grammar.stateNames.findIdx? (· == target) = some number

theorem Numbers.lt {target : String} {number : StateId} (h : grammar.Numbers target number) :
    number < grammar.states.length := by
  obtain ⟨hlt, -⟩ := List.findIdx?_eq_some_iff_getElem.mp h
  simpa [stateNames] using hlt

theorem Numbers.mem {target : String} {number : StateId} (h : grammar.Numbers target number) :
    target ∈ grammar.stateNames := by
  obtain ⟨hlt, hname, -⟩ := List.findIdx?_eq_some_iff_getElem.mp h
  have heq : grammar.stateNames[number] = target := by simpa using hname
  exact heq ▸ List.getElem_mem hlt

theorem exists_numbers {target : String} (h : target ∈ grammar.stateNames) :
    ∃ number, grammar.Numbers target number := by
  cases hfind : grammar.stateNames.findIdx? (· == target) with
  | some number => exact ⟨number, hfind⟩
  | none =>
      have hnone := List.findIdx?_eq_none_iff.mp hfind target h
      simp at hnone

-- What the operation of a rule is compiled to.
inductive OpAs (grammar : Grammar) : StackOp → Op → Prop where
  | push {target number} (h : grammar.Numbers target number) :
      OpAs grammar (.push target) (.push number)
  | pushCurrent : OpAs grammar .pushCurrent .pushCurrent
  | pop {count} (h : count ≠ 0) : OpAs grammar (.pop count) (.pop count)

-- What the rule in place `place` of the state `origin` is compiled to.
structure RuleAs (grammar : Grammar) (id : TableId) (origin : StateId) (place : Nat)
    (decl : RuleDecl) (rule : Rule) : Prop where
  pattern : Pattern.compile decl.pattern grammar.flags = .ok rule.pattern
  ops : List.Forall₂ grammar.OpAs decl.transition.ops rule.ops
  action : rule.action = decl.action.mapDelegations fun part delegation =>
    ⟨⟨id, origin, place, part⟩, delegation⟩
  groups : ∀ parts, decl.action = .groups parts → parts.length ≤ rule.pattern.groupCount
  moves : rule.ops = [] → rule.pattern.matchesEmpty = false
  origin : rule.origin = origin

inductive SlotAs (grammar : Grammar) (id : TableId) (origin : StateId) (place : Nat) :
    Entry → Slot → Prop where
  | rule {entry decl rule} (hentry : entry.rule? = some decl)
      (hrule : grammar.RuleAs id origin place decl rule) :
      SlotAs grammar id origin place entry (.rule rule)
  | include {target number} (h : grammar.Numbers target number) :
      SlotAs grammar id origin place (.include target) (.include number)

-- One slot for each entry, from number `place` on.
structure SlotsAs (grammar : Grammar) (id : TableId) (origin : StateId) (place : Nat)
    (entries : List Entry) (slots : List Slot) : Prop where
  length : slots.length = entries.length
  slot : ∀ i entry, entries[i]? = some entry →
    ∃ slot, slots[i]? = some slot ∧ grammar.SlotAs id origin (place + i) entry slot

-- The slots of each state, from number `origin` on.
structure DeclaredAs (grammar : Grammar) (id : TableId) (origin : StateId)
    (states : List (String × List Entry)) (declared : List (List Slot)) : Prop where
  length : declared.length = states.length
  slots : ∀ i name entries, states[i]? = some (name, entries) →
    ∃ slots, declared[i]? = some slots ∧ grammar.SlotsAs id (origin + i) 0 entries slots

theorem stateId_settles {bad : BuildError → Prop} {source target : String}
    (hbad : target ∉ grammar.stateNames → bad (.unknownState grammar.name source target)) :
    Settles (grammar.stateId source target) (grammar.Numbers target) bad := by
  unfold stateId
  split
  case h_1 number hfind => exact hfind
  case h_2 hfind =>
    apply hbad
    intro hmem
    obtain ⟨number, hnumber⟩ := exists_numbers hmem
    rw [Numbers, hfind] at hnumber
    contradiction

theorem compilePattern_settles {decl : RuleDecl} (hrule : grammar.HasRule state decl) :
    Settles (grammar.compilePattern state decl.pattern)
      (fun pattern => Pattern.compile decl.pattern grammar.flags = .ok pattern)
      grammar.Defect := by
  unfold compilePattern
  split
  case h_1 pattern hpattern => exact hpattern
  case h_2 error hpattern => exact .invalidPattern hrule hpattern

theorem compileOp_settles {decl : RuleDecl} (hrule : grammar.HasRule state decl) {op : StackOp}
    (hop : op ∈ decl.transition.ops) :
    Settles (grammar.compileOp state decl.pattern op) (grammar.OpAs op) grammar.Defect := by
  unfold compileOp
  split
  case h_1 target =>
    apply (stateId_settles (.unknownPush hrule hop)).map
    intro number hnumber
    exact .push hnumber
  case h_2 => exact .pushCurrent
  case h_3 => exact .zeroPop hrule hop
  case h_4 => exact .pop (Nat.succ_ne_zero _)

theorem checkGroups_settles {decl : RuleDecl} (hrule : grammar.HasRule state decl)
    {pattern : Pattern} (hpattern : Pattern.compile decl.pattern grammar.flags = .ok pattern) :
    Settles (grammar.checkGroups state decl pattern)
      (fun _ => ∀ parts, decl.action = .groups parts → parts.length ≤ pattern.groupCount)
      grammar.Defect := by
  unfold checkGroups
  split
  case h_1 parts haction =>
    split
    case isTrue hlt => exact .groupCountMismatch hrule hpattern haction hlt
    case isFalse hle =>
      intro parts' haction'
      obtain rfl := Action.groups.inj (haction.symm.trans haction')
      exact Nat.le_of_not_lt hle
  case h_2 haction =>
    intro parts haction'
    exact absurd haction' (haction parts)

theorem compileRule_settles {decl : RuleDecl} (hrule : grammar.HasRule state decl) (place : Nat) :
    Settles (grammar.compileRule id state origin place decl)
      (grammar.RuleAs id origin place decl) grammar.Defect := by
  unfold compileRule
  apply (compilePattern_settles hrule).bind
  intro pattern hpattern
  apply (Settles.mapM _ (fun op hop => compileOp_settles hrule hop)).bind
  intro ops hops
  apply (checkGroups_settles hrule hpattern).bind
  intro _ hgroups
  split
  case isTrue hstuck =>
    simp only [Bool.and_eq_true, List.isEmpty_iff] at hstuck
    obtain ⟨rfl, hempty⟩ := hstuck
    exact .emptyMatchWithoutTransition hrule hpattern (List.forall₂_nil_right_iff.mp hops) hempty
  case isFalse hmoves =>
    refine ⟨hpattern, hops, rfl, hgroups, ?_, rfl⟩
    intro hnil
    dsimp only at hnil
    simpa [hnil] using hmoves

theorem RuleAs.exists_op {place : Nat} {decl : RuleDecl} {rule : Rule}
    (h : grammar.RuleAs id origin place decl rule) {op : StackOp}
    (hop : op ∈ decl.transition.ops) : ∃ compiled, grammar.OpAs op compiled := by
  obtain ⟨i, hi, rfl⟩ := List.getElem_of_mem hop
  have hlength := h.ops.length_eq
  exact ⟨_, h.ops.get hi (hlength ▸ hi)⟩

-- A rule that compiles is in order.
theorem RuleAs.accepts {place : Nat} {decl : RuleDecl} {rule : Rule}
    (h : grammar.RuleAs id origin place decl rule) : grammar.Accepts decl where
  pattern := ⟨rule.pattern, h.pattern⟩
  pushes target hop := by
    obtain ⟨compiled, hcompiled⟩ := h.exists_op hop
    cases hcompiled with
    | push hnumber => exact hnumber.mem
  pops hop := by
    obtain ⟨compiled, hcompiled⟩ := h.exists_op hop
    cases hcompiled with
    | pop hne => exact hne rfl
  groups pattern parts hpattern haction := by
    obtain rfl := Except.ok.inj (h.pattern.symm.trans hpattern)
    exact h.groups parts haction
  moves pattern hpattern hops := by
    obtain rfl := Except.ok.inj (h.pattern.symm.trans hpattern)
    apply h.moves
    have hlength := h.ops.length_eq
    rw [hops] at hlength
    exact List.length_eq_zero_iff.mp hlength.symm

theorem compileEntry_settles {entry : Entry} (hentry : grammar.HasEntry state entry)
    (place : Nat) :
    Settles (grammar.compileEntry id state origin place entry)
      (grammar.SlotAs id origin place entry) grammar.Defect := by
  cases entry with
  | rule decl =>
      apply (compileRule_settles ⟨.rule decl, hentry, rfl⟩ place).map
      intro rule hrule
      exact .rule rfl hrule
  | default transition =>
      apply (compileRule_settles ⟨.default transition, hentry, rfl⟩ place).map
      intro rule hrule
      exact .rule rfl hrule
  | «include» target =>
      apply (stateId_settles (.unknownInclude hentry)).map
      intro number hnumber
      exact .include hnumber

section Each

variable {bad : BuildError → Prop}

-- Each entry is compiled for itself.
theorem compileEntries_settles (entries : List Entry) (place : Nat)
    (hentries : ∀ i entry, entries[i]? = some entry →
      Settles (grammar.compileEntry id state origin (place + i) entry)
        (grammar.SlotAs id origin (place + i) entry) bad) :
    Settles (grammar.compileEntries id state origin place entries)
      (grammar.SlotsAs id origin place entries) bad := by
  induction entries generalizing place with
  | nil => exact ⟨rfl, by simp⟩
  | cons entry entries ih =>
      have hfirst := hentries 0 entry rfl
      have hrest := ih (place + 1) fun i other hget => by
        rw [Nat.add_assoc, Nat.add_comm 1 i]
        exact hentries (i + 1) other hget
      apply hfirst.bind
      intro slot hslot
      apply hrest.bind
      intro slots hslots
      constructor
      · simp [hslots.length]
      · intro i other hget
        cases i with
        | zero =>
            obtain rfl := Option.some.inj hget
            exact ⟨slot, rfl, hslot⟩
        | succ i =>
            obtain ⟨slot', hget', hslot'⟩ := hslots.slot i other hget
            rw [Nat.add_assoc, Nat.add_comm 1 i] at hslot'
            exact ⟨slot', hget', hslot'⟩

theorem compileStates_settles (states : List (String × List Entry)) (origin : StateId)
    (hstates : ∀ i name entries place entry, states[i]? = some (name, entries) →
      entries[place]? = some entry →
      Settles (grammar.compileEntry id name (origin + i) place entry)
        (grammar.SlotAs id (origin + i) place entry) bad) :
    Settles (grammar.compileStates id origin states) (grammar.DeclaredAs id origin states) bad := by
  induction states generalizing origin with
  | nil => exact ⟨rfl, by simp⟩
  | cons first states ih =>
      obtain ⟨name, entries⟩ := first
      have hfirst := compileEntries_settles entries 0 fun place entry hget => by
        rw [Nat.zero_add]
        exact hstates 0 name entries place entry rfl hget
      have hrest := ih (origin + 1) fun i other entries' place entry hget => by
        rw [Nat.add_assoc, Nat.add_comm 1 i]
        exact hstates (i + 1) other entries' place entry hget
      apply hfirst.bind
      intro slots hslots
      apply hrest.bind
      intro declared hdeclared
      constructor
      · simp [hdeclared.length]
      · intro i other entries' hget
        cases i with
        | zero =>
            obtain ⟨rfl, rfl⟩ := Prod.mk.inj (Option.some.inj hget)
            exact ⟨slots, rfl, hslots⟩
        | succ i =>
            obtain ⟨slots', hget', hslots'⟩ := hdeclared.slots i other entries' hget
            rw [Nat.add_assoc, Nat.add_comm 1 i] at hslots'
            exact ⟨slots', hget', hslots'⟩

end Each

theorem hasEntry_of_getElem? {i place : Nat} {name : String} {entries : List Entry} {entry : Entry}
    (hstate : grammar.states[i]? = some (name, entries)) (hentry : entries[place]? = some entry) :
    grammar.HasEntry name entry :=
  ⟨entries, List.mem_of_getElem? hstate, List.mem_of_getElem? hentry⟩

-- Compiling gives what answers to the entries, or the grammar has the defect that the error names.
theorem declared_settles (grammar : Grammar) (id : TableId) :
    Settles (grammar.compileStates id 0 grammar.states) (grammar.DeclaredAs id 0 grammar.states)
      grammar.Defect := by
  apply compileStates_settles
  intro i name entries place entry hstate hentry
  exact compileEntry_settles (hasEntry_of_getElem? hstate hentry) place

section Declared

variable {declared : List (List Slot)}

-- Every entry has its slot.
theorem DeclaredAs.slot_of_entry (h : grammar.DeclaredAs id 0 grammar.states declared)
    {entry : Entry} (hentry : grammar.HasEntry state entry) :
    ∃ origin place slot, grammar.SlotAs id origin place entry slot := by
  obtain ⟨entries, hmem, hentry⟩ := hentry
  obtain ⟨i, hi⟩ := List.mem_iff_getElem?.mp hmem
  obtain ⟨j, hj⟩ := List.mem_iff_getElem?.mp hentry
  obtain ⟨slots, -, hslots⟩ := h.slots i state entries hi
  obtain ⟨slot, -, hslot⟩ := hslots.slot j entry hj
  exact ⟨_, _, slot, hslot⟩

-- Every slot stands for an entry.
theorem DeclaredAs.entry_of_slot (h : grammar.DeclaredAs id 0 grammar.states declared)
    {i : StateId} {slots : List Slot} (hslots : declared[i]? = some slots) {slot : Slot}
    (hslot : slot ∈ slots) :
    ∃ name entries place entry, grammar.states[i]? = some (name, entries) ∧
      entries[place]? = some entry ∧ grammar.SlotAs id i place entry slot := by
  obtain ⟨hi, -⟩ := List.getElem?_eq_some_iff.mp hslots
  obtain ⟨⟨name, entries⟩, hstate⟩ : ∃ state, grammar.states[i]? = some state :=
    ⟨_, List.getElem?_eq_getElem (h.length ▸ hi)⟩
  obtain ⟨slots', hslots', has⟩ := h.slots i name entries hstate
  obtain rfl := Option.some.inj (hslots.symm.trans hslots')
  obtain ⟨place, hplace⟩ := List.mem_iff_getElem?.mp hslot
  obtain ⟨hlt, -⟩ := List.getElem?_eq_some_iff.mp hplace
  obtain ⟨entry, hentry⟩ : ∃ entry, entries[place]? = some entry :=
    ⟨_, List.getElem?_eq_getElem (has.length ▸ hlt)⟩
  obtain ⟨slot', hslot', hslotAs⟩ := has.slot place entry hentry
  obtain rfl := Option.some.inj (hplace.symm.trans hslot')
  rw [Nat.zero_add, Nat.zero_add] at hslotAs
  exact ⟨name, entries, place, entry, hstate, hentry, hslotAs⟩

theorem DeclaredAs.accepts (h : grammar.DeclaredAs id 0 grammar.states declared)
    {decl : RuleDecl} (hrule : grammar.HasRule state decl) : grammar.Accepts decl := by
  obtain ⟨entry, hentry, hdecl⟩ := hrule
  obtain ⟨origin, place, slot, hslot⟩ := h.slot_of_entry hentry
  cases hslot with
  | rule hdecl' hrule =>
      obtain rfl := Option.some.inj (hdecl.symm.trans hdecl')
      exact hrule.accepts
  | «include» hnumber => contradiction

theorem DeclaredAs.mem_of_include (h : grammar.DeclaredAs id 0 grammar.states declared)
    {target : String} (hentry : grammar.HasEntry state (.include target)) :
    target ∈ grammar.stateNames := by
  obtain ⟨origin, place, slot, hslot⟩ := h.slot_of_entry hentry
  cases hslot with
  | rule hdecl hrule => contradiction
  | «include» hnumber => exact hnumber.mem

end Declared

end Grammar

end StackLexer
