import Mathlib.Data.List.Perm.Subperm
import StackLexer.Proofs.Table.Compile

namespace StackLexer

namespace Slot

variable {grammar : String} {names : List String} {declared : List (List Slot)}

def Edge (declared : List (List Slot)) (i j : StateId) : Prop :=
  ∃ slots, declared[i]? = some slots ∧ .include j ∈ slots

namespace Resolved

def states (resolved : Resolved) : List StateId := resolved.map (·.1)

-- Every state comes after those that it includes; the latest stands first.
def Ordered (declared : List (List Slot)) : Resolved → Prop
  | [] => True
  | (id, _) :: rest => (∀ j, Edge declared id j → j ∈ states rest) ∧ Ordered declared rest

variable {resolved : Resolved}

theorem Ordered.edge (h : resolved.Ordered declared) {i j : StateId} (hi : i ∈ resolved.states)
    (hedge : Edge declared i j) : j ∈ resolved.states := by
  induction resolved with
  | nil => simp [states] at hi
  | cons entry rest ih =>
      obtain ⟨hfirst, hrest⟩ := h
      apply List.mem_cons_of_mem
      rcases List.mem_cons.mp hi with rfl | hi
      · exact hfirst j hedge
      · exact ih hrest hi

theorem Ordered.reach (h : resolved.Ordered declared) {i j : StateId} (hi : i ∈ resolved.states)
    (hreach : Relation.ReflTransGen (Edge declared) i j) : j ∈ resolved.states := by
  induction hreach with
  | refl => exact hi
  | tail _ hedge ih => exact h.edge ih hedge

theorem Ordered.not_transGen (h : resolved.Ordered declared) {i : StateId}
    (hi : i ∈ resolved.states) : ¬ Relation.TransGen (Edge declared) i i := by
  induction resolved with
  | nil => simp [states] at hi
  | cons entry rest ih =>
      obtain ⟨hfirst, hrest⟩ := h
      intro hloop
      -- what the first state leads to was resolved before it
      have hlater : i ∈ states rest := by
        rcases List.mem_cons.mp hi with rfl | hi
        · obtain ⟨j, hedge, hreach⟩ := Relation.TransGen.head'_iff.mp hloop
          exact hrest.reach (hfirst j hedge) hreach
        · exact hi
      exact ih hrest hlater hloop

end Resolved

-- What slots are spliced to: a rule stands for itself, and an include for all that the slots of its
-- state are spliced to.
inductive Spliced (declared : List (List Slot)) : List Slot → List Rule → Prop where
  | nil : Spliced declared [] []
  | rule {own slots rules} (hrest : Spliced declared slots rules) :
      Spliced declared (.rule own :: slots) (own :: rules)
  | include {target included more slots rules} (htarget : declared[target]? = some included)
      (hmore : Spliced declared included more) (hrest : Spliced declared slots rules) :
      Spliced declared (.include target :: slots) (more ++ rules)

def SplicedAt (declared : List (List Slot)) (id : StateId) (rules : List Rule) : Prop :=
  ∃ slots, declared[id]? = some slots ∧ Spliced declared slots rules

-- What holds of all rules that are written holds of all that are spliced.
theorem Spliced.forall_mem {P : Rule → Prop} {slots : List Slot} {rules : List Rule}
    (h : Spliced declared slots rules)
    (hdeclared : ∀ slots ∈ declared, ∀ rule, .rule rule ∈ slots → P rule)
    (hslots : ∀ rule, .rule rule ∈ slots → P rule) : ∀ rule ∈ rules, P rule := by
  induction h with
  | nil => simp
  | rule _ ih =>
      have hrest := ih fun rule hmem => hslots rule (List.mem_cons_of_mem _ hmem)
      exact List.forall_mem_cons.mpr ⟨hslots _ (by simp), hrest⟩
  | «include» htarget _ _ ihmore ih =>
      have hmore := ihmore (hdeclared _ (List.mem_of_getElem? htarget))
      have hrest := ih fun rule hmem => hslots rule (List.mem_cons_of_mem _ hmem)
      exact List.forall_mem_append.mpr ⟨hmore, hrest⟩

section Resolving

variable (declared)

structure Resolved.Kept (resolved : Resolved) : Prop where
  ordered : resolved.Ordered declared
  spliced : ∀ entry ∈ resolved, SplicedAt declared entry.1 entry.2

-- The rules of a state were found, and states were resolved in addition to those before.
structure Resolves (id : StateId) (before : Resolved) (out : List Rule × Resolved) : Prop where
  rules : SplicedAt declared id out.1
  kept : out.2.Kept declared
  subset : before.states ⊆ out.2.states
  state : id ∈ out.2.states

-- Slots were spliced to what stands behind `rules`, and all states that they include are resolved.
structure Splices (slots : List Slot) (rules : List Rule) (before : Resolved)
    (out : List Rule × Resolved) : Prop where
  rules : ∃ more, Spliced declared slots more ∧ out.1 = rules ++ more
  kept : out.2.Kept declared
  subset : before.states ⊆ out.2.states
  states : ∀ j, .include j ∈ slots → j ∈ out.2.states

variable {declared}

-- The slots of a state, where each state that they include can be resolved.
theorem foldlM_splice_settles {bad : BuildError → Prop}
    {included : StateId → Resolved → Except BuildError (List Rule × Resolved)} (slots : List Slot)
    (hincluded : ∀ j, .include j ∈ slots → ∀ resolved, resolved.Kept declared →
      Settles (included j resolved) (Resolves declared j resolved) bad)
    (rules : List Rule) (resolved : Resolved) (hresolved : resolved.Kept declared) :
    Settles (slots.foldlM (splice included) (rules, resolved))
      (Splices declared slots rules resolved) bad := by
  induction slots generalizing rules resolved with
  | nil => exact ⟨⟨[], .nil, by simp⟩, hresolved, List.Subset.refl _, by simp⟩
  | cons slot slots ih =>
      have hrest := ih fun j hmem => hincluded j (List.mem_cons_of_mem _ hmem)
      rw [List.foldlM_cons]
      cases slot with
      | rule own =>
          apply (hrest (rules ++ [own]) resolved hresolved).mono
          rintro out ⟨⟨more, hmore, hout⟩, hkept, hsubset, hstates⟩
          exact ⟨⟨own :: more, .rule hmore, by simp [hout]⟩, hkept, hsubset, by simpa using hstates⟩
      | «include» target =>
          have hfirst : Settles (splice included (rules, resolved) (.include target))
              (fun out => ∃ more, out.1 = rules ++ more ∧
                Resolves declared target resolved (more, out.2)) bad := by
            apply (hincluded target (by simp) resolved hresolved).bind
            rintro ⟨more, between⟩ hresolves
            exact ⟨more, rfl, hresolves⟩
          apply hfirst.bind
          rintro ⟨rules', between⟩ ⟨more, rfl, ⟨included, htarget, hmore⟩, hkept, hsubset, hstate⟩
          apply (hrest (rules ++ more) between hkept).mono
          rintro out ⟨⟨further, hfurther, hout⟩, hkept', hsubset', hstates⟩
          refine ⟨⟨more ++ further, .include htarget hmore hfurther, by simp [hout]⟩, hkept',
            ?_, ?_⟩
          · exact List.Subset.trans hsubset hsubset'
          · intro j hmem
            rcases List.mem_cons.mp hmem with heq | hmem
            · obtain rfl := Slot.include.inj heq
              exact hsubset' hstate
            · exact hstates j hmem

-- A path without a repetition is not longer than there are states.
theorem length_le_of_nodup {path : List StateId} (hnodup : path.Nodup)
    (hpath : ∀ i ∈ path, i < declared.length) : path.length ≤ declared.length := by
  have hsub : path ⊆ List.range declared.length := by
    intro i hi
    exact List.mem_range.mpr (hpath i hi)
  have hle := (List.Nodup.subperm hnodup hsub).length_le
  rwa [List.length_range] at hle

-- A state that is met again closes the path that led to it.
theorem closedPath_of_mem {path : List StateId} {id : StateId} (hmem : id ∈ path)
    (hnodup : path.Nodup)
    (hwalk : (id :: path).IsChain fun later earlier => Edge declared earlier later) :
    ClosedPath (Edge declared) (id :: path.takeWhile (· != id) ++ [id]).reverse := by
  obtain ⟨before, after, rfl, hbefore⟩ := List.eq_append_cons_of_mem hmem
  have htake : (before ++ id :: after).takeWhile (· != id) = before := by
    have hne : ∀ i ∈ before, (i != id) = true := by
      intro i hi
      have hdiff : i ≠ id := fun heq => hbefore (heq ▸ hi)
      simpa using hdiff
    rw [List.takeWhile_append_of_pos hne, List.takeWhile_cons_of_neg (by simp), List.append_nil]
  rw [htake]
  have hsplit : id :: (before ++ id :: after) = (id :: before ++ [id]) ++ after := by simp
  rw [hsplit] at hwalk
  constructor
  · simp
  · have hlast : (id :: (before.reverse ++ [id])).getLast? = some id := by
      rw [← List.cons_append, List.getLast?_concat]
    simp [hlast]
  · have hlower : (before ++ [id]).Nodup := by
      apply List.Nodup.sublist _ hnodup
      simp
    simpa [List.nodup_append_comm] using List.nodup_reverse.mpr hlower
  · apply List.isChain_reverse.mpr
    exact List.IsChain.left_of_append hwalk

-- What fails when a cycle is met.
def CycleError (grammar : String) (names : List String) (declared : List (List Slot))
    (error : BuildError) : Prop :=
  ∃ cycle, ClosedPath (Edge declared) cycle ∧
    error = .includeCycle grammar (cycle.map fun state => names[state]?.getD "")

variable (hbound : ∀ i j, Edge declared i j → j < declared.length)

include hbound

-- The path never has a state twice, so the search ends before the fuel does.
theorem resolve_settles (fuel : Nat) (path : List StateId) (id : StateId) (resolved : Resolved)
    (hfuel : declared.length < fuel + path.length) (hid : id < declared.length)
    (hpath : ∀ i ∈ path, i < declared.length) (hnodup : path.Nodup)
    (hwalk : (id :: path).IsChain fun later earlier => Edge declared earlier later)
    (hresolved : resolved.Kept declared) :
    Settles (resolve grammar names declared fuel path id resolved)
      (Resolves declared id resolved) (CycleError grammar names declared) := by
  induction fuel generalizing path id resolved with
  | zero =>
      have hle := length_le_of_nodup hnodup hpath
      omega
  | succ fuel ih =>
      rw [resolve]
      split
      case h_1 rules hlookup =>
        obtain ⟨before, after, hsplit, -⟩ := List.lookup_eq_some_iff.mp hlookup
        have hmem : (id, rules) ∈ resolved := by simp [hsplit]
        refine ⟨hresolved.spliced _ hmem, hresolved, List.Subset.refl _, ?_⟩
        exact List.mem_map.mpr ⟨_, hmem, rfl⟩
      case h_2 =>
        by_cases hmem : id ∈ path
        · rw [if_pos (List.contains_iff_mem.mpr hmem)]
          exact ⟨_, closedPath_of_mem hmem hnodup hwalk, rfl⟩
        · rw [if_neg (mt List.contains_iff_mem.mp hmem)]
          obtain ⟨slots, hslots⟩ : ∃ slots, declared[id]? = some slots :=
            ⟨_, List.getElem?_eq_getElem hid⟩
          rw [hslots, Option.getD_some]
          have hincluded : ∀ j, .include j ∈ slots → ∀ resolved, resolved.Kept declared →
              Settles (resolve grammar names declared fuel (id :: path) j resolved)
                (Resolves declared j resolved) (CycleError grammar names declared) := by
            intro j hj resolved hresolved
            have hedge : Edge declared id j := ⟨slots, hslots, hj⟩
            apply ih (id :: path) j resolved
            · rw [List.length_cons]
              omega
            · exact hbound id j hedge
            · exact List.forall_mem_cons.mpr ⟨hid, hpath⟩
            · exact List.nodup_cons.mpr ⟨hmem, hnodup⟩
            · exact .cons_cons hedge hwalk
            · exact hresolved
          apply (foldlM_splice_settles slots hincluded [] resolved hresolved).bind
          rintro ⟨rules, after⟩ ⟨⟨more, hmore, hrules⟩, hkept, hsubset, hstates⟩
          obtain rfl : rules = more := hrules
          have hown : SplicedAt declared id rules := ⟨slots, hslots, hmore⟩
          refine ⟨hown, ⟨⟨?_, hkept.ordered⟩, ?_⟩, ?_, by simp [Resolved.states]⟩
          · rintro j ⟨slots', hslots', hj⟩
            obtain rfl := Option.some.inj (hslots.symm.trans hslots')
            exact hstates j hj
          · exact List.forall_mem_cons.mpr ⟨hown, hkept.spliced⟩
          · intro i hi
            exact List.mem_cons_of_mem _ (hsubset hi)

-- The search for one state, whatever was resolved before it.
theorem resolve_state_settles (hnames : names.length = declared.length) {id : StateId}
    (hid : id < declared.length) {resolved : Resolved} (hresolved : resolved.Kept declared) :
    Settles (resolve grammar names declared (names.length + 1) [] id resolved)
      (Resolves declared id resolved) (CycleError grammar names declared) := by
  apply resolve_settles hbound
  · rw [hnames, List.length_nil]
    omega
  · exact hid
  · simp
  · exact List.nodup_nil
  · exact .singleton id
  · exact hresolved

theorem resolveFrom_settles (hnames : names.length = declared.length) (rest : List String)
    (id : Nat) (resolved : Resolved) (hrest : id + rest.length = declared.length)
    (hresolved : resolved.Kept declared) :
    Settles (resolveFrom grammar names declared id resolved rest)
      (fun states => states.map State.name = rest ∧
        (∀ i state, states[i]? = some state → SplicedAt declared (id + i) state.rules) ∧
        ∀ i, id ≤ i → i < declared.length → ¬ Relation.TransGen (Edge declared) i i)
      (CycleError grammar names declared) := by
  induction rest generalizing id resolved with
  | nil =>
      refine ⟨rfl, by simp, ?_⟩
      intro i hle hlt
      rw [List.length_nil] at hrest
      omega
  | cons name rest ih =>
      rw [List.length_cons] at hrest
      have hlt : id < declared.length := by omega
      apply (resolve_state_settles hbound hnames hlt hresolved).bind
      rintro ⟨rules, after⟩ ⟨hrules, hkept, -, hid⟩
      apply (ih (id + 1) after (by omega) hkept).bind
      rintro states ⟨hstates, hall, hloops⟩
      refine ⟨by simp [hstates], ?_, ?_⟩
      · intro i state hget
        cases i with
        | zero =>
            obtain rfl := Option.some.inj hget
            exact hrules
        | succ i =>
            have hstate := hall i state hget
            rwa [Nat.add_assoc, Nat.add_comm 1 i] at hstate
      · intro i hle hlt
        rcases Nat.eq_or_lt_of_le hle with rfl | hlt'
        · exact hkept.ordered.not_transGen hid
        · exact hloops i hlt' hlt

-- Resolving is a depth-first search: the path holds the states that are being resolved, and a state
-- is kept only after all states that it includes. So where the search ends no state leads back to
-- itself, and where it fails the path closes a cycle.
theorem resolveAll_settles (hnames : names.length = declared.length) :
    Settles (resolveAll grammar names declared)
      (fun states => states.map State.name = names ∧
        (∀ i state, states[i]? = some state → SplicedAt declared i state.rules) ∧
        ∀ i, i < declared.length → ¬ Relation.TransGen (Edge declared) i i)
      (CycleError grammar names declared) := by
  have hstart : Resolved.Kept declared [] := ⟨trivial, by simp⟩
  apply (resolveFrom_settles hbound hnames names 0 [] (by omega) hstart).mono
  rintro states ⟨hstates, hall, hloops⟩
  refine ⟨hstates, ?_, fun i hlt => hloops i (Nat.zero_le i) hlt⟩
  intro i state hget
  have hstate := hall i state hget
  rwa [Nat.zero_add] at hstate

end Resolving

end Slot

namespace Grammar

variable {grammar : Grammar} {id : TableId} {declared : List (List Slot)}

theorem Numbers.unique {name : String} {i j : StateId} (hi : grammar.Numbers name i)
    (hj : grammar.Numbers name j) : i = j :=
  Option.some.inj (hi.symm.trans hj)

theorem Numbers.name? {name : String} {i : StateId} (h : grammar.Numbers name i) :
    grammar.stateNames[i]? = some name := by
  obtain ⟨hlt, hname, -⟩ := List.findIdx?_eq_some_iff_getElem.mp h
  rw [List.getElem?_eq_getElem hlt]
  simpa using hname

theorem Numbers.name_eq {name other : String} {entries : List Entry} {i : StateId}
    (hi : grammar.Numbers name i) (hstate : grammar.states[i]? = some (other, entries)) :
    other = name := by
  have hother : grammar.stateNames[i]? = some other := by
    simp [stateNames, hstate]
  exact Option.some.inj (hother.symm.trans hi.name?)

-- A state is looked up where its number is.
theorem numbers_of_lookup {name : String} {entries : List Entry}
    (h : grammar.states.lookup name = some entries) :
    ∃ i, grammar.Numbers name i ∧ grammar.states[i]? = some (name, entries) := by
  obtain ⟨before, after, hsplit, hbefore⟩ := List.lookup_eq_some_iff.mp h
  refine ⟨before.length, ?_, by simp [hsplit]⟩
  have hnames : grammar.stateNames = before.map (·.1) ++ name :: after.map (·.1) := by
    simp [stateNames, hsplit]
  rw [Numbers, hnames]
  apply List.findIdx?_eq_some_iff_getElem.mpr
  refine ⟨by simp, by simp, ?_⟩
  intro j hj
  have hother : before[j].1 ≠ name := by
    intro heq
    simpa [heq] using hbefore _ (List.getElem_mem hj)
  rw [List.getElem_append_left (by simpa using hj), List.getElem_map]
  simpa using hother

theorem Numbers.lookup {name : String} {entries : List Entry} {i : StateId}
    (hi : grammar.Numbers name i) (hstate : grammar.states[i]? = some (name, entries)) :
    grammar.states.lookup name = some entries := by
  have hmem : (name, entries) ∈ grammar.states := List.mem_of_getElem? hstate
  have hsome : (grammar.states.lookup name).isSome := by
    rw [List.lookup_isSome_iff]
    exact ⟨_, hmem, by simp⟩
  obtain ⟨entries', hlookup⟩ := Option.isSome_iff_exists.mp hsome
  obtain ⟨j, hj, hstate'⟩ := numbers_of_lookup hlookup
  obtain rfl := hi.unique hj
  obtain ⟨-, rfl⟩ := Prod.mk.inj (Option.some.inj (hstate.symm.trans hstate'))
  exact hlookup

namespace DeclaredAs

variable (hdeclared : grammar.DeclaredAs id 0 grammar.states declared)

include hdeclared

theorem exists_include {i j : StateId} (hedge : Slot.Edge declared i j) :
    ∃ name entries target, grammar.states[i]? = some (name, entries) ∧
      .include target ∈ entries ∧ grammar.Numbers target j := by
  obtain ⟨slots, hslots, hmem⟩ := hedge
  obtain ⟨name, entries, place, entry, hstate, hentry, hslot⟩ :=
    hdeclared.entry_of_slot hslots hmem
  cases hslot with
  | «include» hnumber => exact ⟨name, entries, _, hstate, List.mem_of_getElem? hentry, hnumber⟩

theorem edge_lt (i j : StateId) (hedge : Slot.Edge declared i j) : j < declared.length := by
  obtain ⟨-, -, target, -, -, hnumber⟩ := hdeclared.exists_include hedge
  rw [hdeclared.length]
  exact hnumber.lt

theorem edge_of_includes {source target : String} (h : grammar.Includes source target) :
    ∃ i j, grammar.Numbers source i ∧ grammar.Numbers target j ∧ Slot.Edge declared i j := by
  obtain ⟨entries, hlookup, hmem⟩ := h
  obtain ⟨i, hi, hstate⟩ := numbers_of_lookup hlookup
  obtain ⟨place, hplace⟩ := List.mem_iff_getElem?.mp hmem
  obtain ⟨slots, hslots, has⟩ := hdeclared.slots i _ _ hstate
  obtain ⟨slot, hslot, hslotAs⟩ := has.slot place _ hplace
  cases hslotAs with
  | rule hdecl hrule => contradiction
  | «include» hnumber =>
      exact ⟨i, _, hi, hnumber, slots, hslots, List.mem_of_getElem? hslot⟩

-- No state takes in its own rules if no number leads back to itself.
theorem acyclic
    (hloops : ∀ i, i < declared.length → ¬ Relation.TransGen (Slot.Edge declared) i i)
    (state : String) : ¬ Relation.TransGen grammar.Includes state state := by
  intro hloop
  let number (name : String) : StateId := (grammar.stateNames.findIdx? (· == name)).getD 0
  have hnumber : ∀ {name i}, grammar.Numbers name i → number name = i := by
    intro name i hi
    change (grammar.stateNames.findIdx? (· == name)).getD 0 = i
    rw [show grammar.stateNames.findIdx? (· == name) = some i from hi, Option.getD_some]
  have hlift : ∀ source target, grammar.Includes source target →
      Slot.Edge declared (number source) (number target) := by
    intro source target h
    obtain ⟨i, j, hi, hj, hedge⟩ := hdeclared.edge_of_includes h
    rw [hnumber hi, hnumber hj]
    exact hedge
  obtain ⟨target, hfirst, -⟩ := Relation.TransGen.head'_iff.mp hloop
  obtain ⟨i, j, hi, -, -⟩ := hdeclared.edge_of_includes hfirst
  have hlt : number state < declared.length := by
    rw [hnumber hi, hdeclared.length]
    exact hi.lt
  exact hloops _ hlt (Relation.TransGen.lift number hlift state state hloop)

-- The names along a closed path of numbers are one of states.
theorem closedPath {cycle : List StateId} (h : ClosedPath (Slot.Edge declared) cycle) :
    ClosedPath grammar.Includes (cycle.map fun i => grammar.stateNames[i]?.getD "") := by
  -- every number on the path was given to its name, as something includes it
  have hnumbers : ∀ i ∈ cycle, grammar.Numbers (grammar.stateNames[i]?.getD "") i := by
    intro i hi
    obtain ⟨j, hedge⟩ := h.exists_rel i hi
    obtain ⟨-, -, target, -, -, hnumber⟩ := hdeclared.exists_include hedge
    rw [hnumber.name?, Option.getD_some]
    exact hnumber
  constructor
  · simpa using h.length
  · rw [List.head?_map, List.getLast?_map, h.closed]
  · rw [← List.map_tail]
    apply List.Nodup.map_on _ h.simple
    intro i hi j hj heq
    have hi' := hnumbers i (List.mem_of_mem_tail hi)
    rw [heq] at hi'
    exact hi'.unique (hnumbers j (List.mem_of_mem_tail hj))
  · apply (List.isChain_map _).mpr
    apply h.path.imp_of_mem_imp
    intro i j hi hj hedge
    obtain ⟨name, entries, target, hstate, hmem, hnumber⟩ := hdeclared.exists_include hedge
    have hsource := hnumbers i hi
    obtain rfl := hsource.name_eq hstate
    rw [hnumber.name?, Option.getD_some]
    exact ⟨entries, hsource.lookup hstate, hmem⟩

end DeclaredAs

end Grammar

end StackLexer
