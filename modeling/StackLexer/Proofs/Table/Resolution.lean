import StackLexer.Proofs.Table.Construction

namespace StackLexer

namespace Slot

variable {grammar : String} {names : List String} {declared : List (List Slot)}

-- The rules of states that are asked for one after the other.
def resolveEach (grammar : String) (names : List String) (declared : List (List Slot)) :
    List StateId → Resolved → Except BuildError (List (List Rule) × Resolved)
  | [], resolved => .ok ([], resolved)
  | id :: rest, resolved => do
      let (rules, resolved) ← resolve grammar names declared (names.length + 1) [] id resolved
      let (lists, resolved) ← resolveEach grammar names declared rest resolved
      return (rules :: lists, resolved)

theorem resolveEach_settles (hbound : ∀ i j, Edge declared i j → j < declared.length)
    (hnames : names.length = declared.length) (order : List StateId) (resolved : Resolved)
    (horder : ∀ i ∈ order, i < declared.length) (hresolved : resolved.Kept declared) :
    Settles (resolveEach grammar names declared order resolved)
      (fun out => List.Forall₂ (SplicedAt declared) order out.1)
      (CycleError grammar names declared) := by
  induction order generalizing resolved with
  | nil => exact .nil
  | cons id order ih =>
      obtain ⟨hid, hrest⟩ := List.forall_mem_cons.mp horder
      apply (resolve_state_settles hbound hnames hid hresolved).bind
      rintro ⟨rules, between⟩ ⟨hrules, hkept, -, -⟩
      apply (ih between hrest hkept).bind
      rintro ⟨lists, after⟩ hlists
      exact .cons hrules hlists

mutual

-- The run on one state, to its end: `resolve` with no bound on how deep it goes.
inductive Finds (grammar : String) (names : List String) (declared : List (List Slot)) :
    List StateId → StateId → Resolved → Except BuildError (List Rule × Resolved) → Prop where
  | kept {path id resolved rules} (hlookup : resolved.lookup id = some rules) :
      Finds grammar names declared path id resolved (.ok (rules, resolved))
  | cycle {path id resolved} (hlookup : resolved.lookup id = none) (hmem : id ∈ path) :
      Finds grammar names declared path id resolved
        (.error (.includeCycle grammar (cycleNames names path id)))
  | enter {path id resolved rules after} (hlookup : resolved.lookup id = none) (hmem : id ∉ path)
      (hslots : Gathers grammar names declared (id :: path) (declared[id]?.getD []) ([], resolved)
        (.ok (rules, after))) :
      Finds grammar names declared path id resolved (.ok (rules, (id, rules) :: after))
  | fail {path id resolved error} (hlookup : resolved.lookup id = none) (hmem : id ∉ path)
      (hslots : Gathers grammar names declared (id :: path) (declared[id]?.getD []) ([], resolved)
        (.error error)) :
      Finds grammar names declared path id resolved (.error error)

-- The run on slots, where `rules` are those found before.
inductive Gathers (grammar : String) (names : List String) (declared : List (List Slot)) :
    List StateId → List Slot → List Rule × Resolved →
      Except BuildError (List Rule × Resolved) → Prop where
  | nil {path out} : Gathers grammar names declared path [] out (.ok out)
  | rule {path own slots rules resolved outcome}
      (hrest : Gathers grammar names declared path slots (rules ++ [own], resolved) outcome) :
      Gathers grammar names declared path (.rule own :: slots) (rules, resolved) outcome
  | include {path target slots rules resolved more between outcome}
      (htarget : Finds grammar names declared path target resolved (.ok (more, between)))
      (hrest : Gathers grammar names declared path slots (rules ++ more, between) outcome) :
      Gathers grammar names declared path (.include target :: slots) (rules, resolved) outcome
  | fail {path target slots rules resolved error}
      (htarget : Finds grammar names declared path target resolved (.error error)) :
      Gathers grammar names declared path (.include target :: slots) (rules, resolved)
        (.error error)

end

theorem foldlM_splice_gathers {path : List StateId}
    {included : StateId → Resolved → Except BuildError (List Rule × Resolved)} (slots : List Slot)
    (hincluded : ∀ j, .include j ∈ slots → ∀ resolved,
      Finds grammar names declared path j resolved (included j resolved))
    (out : List Rule × Resolved) :
    Gathers grammar names declared path slots out (slots.foldlM (splice included) out) := by
  induction slots generalizing out with
  | nil => exact .nil
  | cons slot slots ih =>
      have hrest := ih fun j hmem => hincluded j (List.mem_cons_of_mem _ hmem)
      obtain ⟨rules, resolved⟩ := out
      rw [List.foldlM_cons]
      cases slot with
      | rule own => exact .rule (hrest (rules ++ [own], resolved))
      | «include» target =>
          have htarget := hincluded target (by simp) resolved
          rw [splice]
          cases hfound : included target resolved with
          | error error =>
              rw [hfound] at htarget
              exact .fail htarget
          | ok found =>
              rw [hfound] at htarget
              exact .include htarget (hrest (rules ++ found.1, found.2))

-- The search ends on every graph, also where a slot leads to no state: each state that is entered
-- on the way to another has a slot, so it is one of those declared, and none is entered twice.
theorem resolve_finds (fuel : Nat) (path : List StateId) (id : StateId) (resolved : Resolved)
    (hfuel : declared.length < fuel + path.length)
    (hpath : ∀ i ∈ path, i < declared.length) (hnodup : path.Nodup) :
    Finds grammar names declared path id resolved
      (resolve grammar names declared fuel path id resolved) := by
  induction fuel generalizing path id resolved with
  | zero =>
      have hle := length_le_of_nodup hnodup hpath
      omega
  | succ fuel ih =>
      rw [resolve]
      split
      case h_1 rules hlookup => exact .kept hlookup
      case h_2 hlookup =>
        by_cases hmem : id ∈ path
        · rw [if_pos (List.contains_iff_mem.mpr hmem)]
          exact .cycle hlookup hmem
        · rw [if_neg (mt List.contains_iff_mem.mp hmem)]
          have hincluded : ∀ j, .include j ∈ declared[id]?.getD [] → ∀ resolved,
              Finds grammar names declared (id :: path) j resolved
                (resolve grammar names declared fuel (id :: path) j resolved) := by
            intro j hj resolved
            have hid : id < declared.length := by
              by_contra hge
              rw [List.getElem?_eq_none (Nat.le_of_not_lt hge)] at hj
              contradiction
            apply ih (id :: path) j resolved
            · rw [List.length_cons]
              omega
            · exact List.forall_mem_cons.mpr ⟨hid, hpath⟩
            · exact List.nodup_cons.mpr ⟨hmem, hnodup⟩
          have hslots := foldlM_splice_gathers (declared[id]?.getD []) hincluded ([], resolved)
          cases hfold : (declared[id]?.getD []).foldlM
              (splice (resolve grammar names declared fuel (id :: path))) ([], resolved) with
          | error error =>
              rw [hfold] at hslots
              exact .fail hlookup hmem hslots
          | ok found =>
              rw [hfold] at hslots
              exact .enter hlookup hmem hslots

end Slot

namespace Grammar

variable {grammar : Grammar} {id : TableId}

section Order

variable {table : Table} {declared : List (List Slot)}

-- Where slots are spliced to rules, the table has these rules.
theorem TableAs.rules_of_spliced (h : grammar.TableAs id table)
    (hdeclared : grammar.DeclaredAs id 0 grammar.states declared) {i : StateId} {rules : List Rule}
    (hspliced : Slot.SplicedAt declared i rules) :
    (table.state? i).map State.rules = some rules := by
  have hlt : i < table.states.length := by
    obtain ⟨slots, hslots, -⟩ := hspliced
    obtain ⟨hlt, -⟩ := List.getElem?_eq_some_iff.mp hslots
    rwa [hdeclared.length, ← h.states_length] at hlt
  obtain ⟨state, hstate⟩ : ∃ state, table.state? i = some state :=
    ⟨_, List.getElem?_eq_getElem hlt⟩
  have hrules := (h.expands i state hstate).unique (hdeclared.expands hspliced)
  rw [hstate, Option.map_some, hrules]

-- A grammar that compiles has no cycle to fail on.
theorem WellFormed.not_cycleError (h : grammar.WellFormed)
    (hdeclared : grammar.DeclaredAs id 0 grammar.states declared) (error : BuildError) :
    ¬ Slot.CycleError grammar.name grammar.stateNames declared error := by
  rintro ⟨cycle, hcycle, -⟩
  obtain ⟨state, hloop⟩ := (hdeclared.closedPath hcycle).transGen
  exact h.acyclic state hloop

-- The rules of each state are the expansion of its entries and of nothing else, so the rule that
-- wins at a place is the first that a walk over the entries comes to. If states are asked for in
-- another order, or again, these are the rules that are found.
theorem rules_eq_expansion {grammar : Grammar} {id : TableId} {table : Table}
    (h : grammar.compile id = .ok table) :
    table.states.map State.name = grammar.stateNames ∧
    (∀ i state, table.state? i = some state →
      (∀ rules, grammar.Expands id (grammar.sources i) rules ↔ rules = state.rules) ∧
      ∀ place won, grammar.Walks id place (grammar.sources i) won ↔
        won = Scan.winner? state.rules place) ∧
    ∃ declared, grammar.compileStates id 0 grammar.states = .ok declared ∧
      ∀ order : List StateId, (∀ i ∈ order, i < grammar.states.length) →
        ∃ lists resolved,
          Slot.resolveEach grammar.name grammar.stateNames declared order [] =
            .ok (lists, resolved) ∧
          List.Forall₂ (fun i rules => (table.state? i).map State.rules = some rules)
            order lists := by
  have htable := (compile_settles grammar id).of_ok h
  refine ⟨htable.states, ?_, ?_⟩
  · intro i state hstate
    have hexpands := htable.expands i state hstate
    constructor
    · intro rules
      constructor
      · intro hrules
        exact hrules.unique hexpands
      · rintro rfl
        exact hexpands
    · intro place won
      exact hexpands.walks_iff
  · rw [compile, show grammar.stateNames.findIdx? (· == rootName) = _ from htable.root] at h
    obtain ⟨declared, hcompile, -⟩ := bind_eq_ok.mp h
    have hdeclared := (grammar.declared_settles id).of_ok hcompile
    refine ⟨declared, hcompile, ?_⟩
    intro order horder
    rw [← hdeclared.length] at horder
    have hkept : Slot.Resolved.Kept declared [] := ⟨trivial, by simp⟩
    have hsettles : Settles
        (Slot.resolveEach grammar.name grammar.stateNames declared order []) _ _ :=
      Slot.resolveEach_settles hdeclared.edge_lt hdeclared.stateNames_length order [] horder hkept
    cases hresolve : Slot.resolveEach grammar.name grammar.stateNames declared order [] with
    | error error =>
        have herror := hsettles.of_error hresolve
        exact absurd herror (htable.wellFormed.not_cycleError hdeclared error)
    | ok out =>
        refine ⟨out.1, out.2, rfl, ?_⟩
        apply (hsettles.of_ok hresolve).imp
        intro i rules hspliced
        exact htable.rules_of_spliced hdeclared hspliced

-- Two states include a third one, which is resolved before both of them.
def diamond : Grammar :=
  (((Grammar.new "diamond").setState "root"
    [.include "numbers", .default ⟨[.push "spaces"]⟩, .include "spaces"]).setState "numbers"
    [.rule ⟨"[0-9]+", .token .number, ⟨[]⟩⟩, .include "letters"]).setState "spaces"
    [.include "letters", .rule ⟨" +", .token .whitespace, ⟨[]⟩⟩] |>.setState "letters"
    [.rule ⟨"[a-z]+", .token .name, ⟨[]⟩⟩]

theorem diamond_compiles :
    ∃ table, diamond.compile 0 = .ok table ∧
      (table.state? 2).map (fun state => state.rules.map fun rule => rule.pattern.source) =
        some ["[0-9]+", "[a-z]+", "", "[a-z]+", " +"] := by
  have hcompiles : ((diamond.compile 0).toOption.any fun table =>
      (table.state? 2).map (fun state => state.rules.map fun rule => rule.pattern.source) ==
        some ["[0-9]+", "[a-z]+", "", "[a-z]+", " +"]) = true := by
    decide +kernel
  obtain ⟨table, htable, hsources⟩ := exists_ok_of_any hcompiles
  exact ⟨table, htable, beq_iff_eq.mp hsources⟩

theorem diamond_rules_eq_expansion :
    ∃ table state, diamond.compile 0 = .ok table ∧ table.state? 2 = some state ∧
      (state.rules.map fun rule => rule.pattern.source) =
        ["[0-9]+", "[a-z]+", "", "[a-z]+", " +"] ∧
      ∀ rules, diamond.Expands 0 (diamond.sources 2) rules ↔ rules = state.rules := by
  obtain ⟨table, htable, hsources⟩ := diamond_compiles
  obtain ⟨state, hstate, hsources⟩ := Option.map_eq_some_iff.mp hsources
  obtain ⟨-, hrules, -⟩ := rules_eq_expansion htable
  exact ⟨table, state, htable, hstate, hsources, (hrules 2 state hstate).1⟩

end Order

section Cycle

-- Each entry compiles, whatever becomes of the others.
def EntriesCompile (grammar : Grammar) (id : TableId) : Prop :=
  ∀ i name entries place entry, grammar.states[i]? = some (name, entries) →
    entries[place]? = some entry → ∃ slot, grammar.compileEntry id name i place entry = .ok slot

-- Where all entries compile, only a cycle is left to fail on.
theorem EntriesCompile.compile_settles (h : grammar.EntriesCompile id)
    (hroot : rootName ∈ grammar.stateNames) :
    Settles (grammar.compile id) (fun _ => True) fun error =>
      ∃ cycle, error = .includeCycle grammar.name cycle := by
  obtain ⟨root, hnumber⟩ := exists_numbers hroot
  have hdeclare : Settles (grammar.compileStates id 0 grammar.states)
      (grammar.DeclaredAs id 0 grammar.states) fun error =>
        ∃ cycle, error = .includeCycle grammar.name cycle := by
    apply compileStates_settles
    intro i name entries place entry hstate hentry
    obtain ⟨slot, hslot⟩ := h i name entries place entry hstate hentry
    rw [Nat.zero_add, hslot]
    exact (compileEntry_settles (hasEntry_of_getElem? hstate hentry) place).of_ok hslot
  rw [compile, show grammar.stateNames.findIdx? (· == rootName) = some root from hnumber]
  apply hdeclare.bind
  intro declared hdeclared
  have hresolve : Settles (Slot.resolveAll grammar.name grammar.stateNames declared) _ _ :=
    Slot.resolveAll_settles hdeclared.edge_lt hdeclared.stateNames_length
  have hcycle : ∀ error, Slot.CycleError grammar.name grammar.stateNames declared error →
      ∃ cycle, error = .includeCycle grammar.name cycle := by
    rintro error ⟨cycle, -, rfl⟩
    exact ⟨_, rfl⟩
  apply (hresolve.mono_bad hcycle).bind
  intros
  trivial

-- Resolving ends on every list of states with slots, with all that may be known by then. Where
-- there is a root and all entries compile, compiling fails on a cycle if and only if there is one,
-- and the path in its error is always a cycle of the grammar.
theorem includeCycle_iff (grammar : Grammar) (id : TableId) :
    (∀ declared start resolved fuel, declared.length < fuel →
      Slot.Finds grammar.name grammar.stateNames declared [] start resolved
        (Slot.resolve grammar.name grammar.stateNames declared fuel [] start resolved)) ∧
    (rootName ∈ grammar.stateNames → grammar.EntriesCompile id →
      ((∃ source cycle, grammar.compile id = .error (.includeCycle source cycle)) ↔
        ∃ state, Relation.TransGen grammar.Includes state state)) ∧
    ∀ source cycle, grammar.compile id = .error (.includeCycle source cycle) →
      source = grammar.name ∧ ClosedPath grammar.Includes cycle := by
  have hpath : ∀ source cycle, grammar.compile id = .error (.includeCycle source cycle) →
      source = grammar.name ∧ ClosedPath grammar.Includes cycle := by
    intro source cycle herror
    cases (compile_settles grammar id).of_error herror with
    | includeCycle hcycle => exact ⟨rfl, hcycle⟩
  refine ⟨?_, ?_, hpath⟩
  · intro declared start resolved fuel hfuel
    apply Slot.resolve_finds
    · rwa [List.length_nil, Nat.add_zero]
    · simp
    · exact List.nodup_nil
  · intro hroot hentries
    constructor
    · rintro ⟨source, cycle, herror⟩
      exact (hpath source cycle herror).2.transGen
    · rintro ⟨state, hloop⟩
      cases hcompile : grammar.compile id with
      | ok table =>
          have htable := (compile_settles grammar id).of_ok hcompile
          exact absurd hloop (htable.wellFormed.acyclic state)
      | error error =>
          obtain ⟨cycle, rfl⟩ := (hentries.compile_settles hroot).of_error hcompile
          exact ⟨grammar.name, cycle, rfl⟩

-- Two states include each other. Nothing leads to them from the root.
def tangle : Grammar :=
  (((Grammar.new "tangle").setState "root" [.default ⟨[.pushCurrent]⟩]).setState "left"
    [.include "right", .rule ⟨"a", .token .text, ⟨[]⟩⟩]).setState "right" [.include "left"]

theorem tangle_entriesCompile : tangle.EntriesCompile 0 := by
  have hall : ∀ state ∈ tangle.states.zipIdx, ∀ entry ∈ state.1.2.zipIdx,
      (tangle.compileEntry 0 state.1.1 state.2 entry.2 entry.1).toBool = true := by
    decide +kernel
  intro i name entries place entry hstate hentry
  have hok := hall ((name, entries), i) (List.mem_zipIdx_iff_getElem?.mpr hstate)
    (entry, place) (List.mem_zipIdx_iff_getElem?.mpr hentry)
  exact exists_ok hok

theorem tangle_includeCycle_iff :
    ∃ source cycle, tangle.compile 0 = .error (.includeCycle source cycle) ∧
      source = "tangle" ∧ ClosedPath tangle.Includes cycle := by
  obtain ⟨-, hiff, hpath⟩ := includeCycle_iff tangle 0
  have hleft : tangle.Includes "left" "right" := ⟨_, rfl, by simp⟩
  have hright : tangle.Includes "right" "left" := ⟨_, rfl, by simp⟩
  have hloop : Relation.TransGen tangle.Includes "left" "left" := .tail (.single hleft) hright
  have hroot : rootName ∈ tangle.stateNames := by decide
  obtain ⟨source, cycle, herror⟩ := (hiff hroot tangle_entriesCompile).mpr ⟨_, hloop⟩
  exact ⟨source, cycle, herror, hpath source cycle herror⟩

end Cycle

end Grammar

end StackLexer
