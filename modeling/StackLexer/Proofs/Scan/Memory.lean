import StackLexer.Proofs.Scan.Host
import StackLexer.Proofs.Table.Construction
import StackLexer.Scan.Session

namespace StackLexer

namespace Action

variable {δ ε : Type} {action : Action δ}

-- The delegation in place `part` of an action.
def delegationAt? : Action δ → Nat → Option δ
  | .delegate delegation, _ => some delegation
  | .groups parts, part =>
      match parts[part]? with
      | some (.delegate delegation) => some delegation
      | _ => none
  | _, _ => none

theorem mem_of_delegationAt? {part : Nat} {delegation : δ}
    (h : action.delegationAt? part = some delegation) : delegation ∈ action.delegations := by
  unfold delegationAt? at h
  split at h
  case h_1 own =>
    obtain rfl := Option.some.inj h
    exact List.mem_singleton_self _
  case h_2 parts =>
    split at h
    case h_1 own hpart =>
      obtain rfl := Option.some.inj h
      exact List.mem_filterMap.mpr ⟨_, List.mem_of_getElem? hpart, rfl⟩
    case h_2 => contradiction
  case h_3 => contradiction

-- Changed delegations come from those in the same places.
theorem exists_delegationAt? {change : Nat → δ → ε} {changed : ε}
    (h : changed ∈ (action.mapDelegations change).delegations) :
    ∃ part delegation, action.delegationAt? part = some delegation ∧
      changed = change part delegation := by
  cases action with
  | token kind => simp [mapDelegations, delegations] at h
  | callback call => simp [mapDelegations, delegations] at h
  | delegate delegation => exact ⟨0, delegation, rfl, List.mem_singleton.mp h⟩
  | groups parts =>
      obtain ⟨part, hmem, hpart⟩ := List.mem_filterMap.mp h
      obtain ⟨i, hi, rfl⟩ := List.mem_mapIdx.mp hmem
      cases hget : parts[i] with
      | kind kind => simp [hget] at hpart
      | delegate delegation =>
          refine ⟨i, delegation, ?_, ?_⟩
          · simp [delegationAt?, List.getElem?_eq_getElem hi, hget]
          · simpa [hget, eq_comm] using hpart

end Action

namespace TableSet

variable {grammars : List Grammar} {set : TableSet} {id : TableId} {handle : Handle}

-- The key of a handle says where its delegation is written.
def Written (grammars : List Grammar) (handle : Handle) : Prop :=
  ∃ grammar decl, grammars[handle.key.table]? = some grammar ∧
    grammar.RuleAt handle.key.state handle.key.entry decl ∧
    decl.action.delegationAt? handle.key.part = some handle.delegation

theorem Written.unique {other : Handle} (h : Written grammars handle)
    (h' : Written grammars other) (hkey : handle.key = other.key) :
    handle.delegation = other.delegation := by
  obtain ⟨grammar, decl, hgrammar, hdecl, hdelegation⟩ := h
  obtain ⟨grammar', decl', hgrammar', hdecl', hdelegation'⟩ := h'
  rw [hkey] at hgrammar hdecl hdelegation
  obtain rfl := Option.some.inj (hgrammar.symm.trans hgrammar')
  obtain rfl := hdecl.unique hdecl'
  exact Option.some.inj (hdelegation.symm.trans hdelegation')

namespace BuiltAs

-- A rule of a table, spliced or not, was written in the grammar of that table.
theorem written (h : BuiltAs grammars set) (hdeclared : set.Declares id handle) :
    handle.key.table = id ∧ Written grammars handle := by
  obtain ⟨table, htable, state, hstate, rule, hrule, hmem⟩ := hdeclared
  obtain ⟨grammar, hgrammar, has⟩ := h.grammar htable
  obtain ⟨place, decl, hdecl, hcompiled⟩ := has.rules state hstate rule hrule
  rw [hcompiled.action] at hmem
  obtain ⟨part, delegation, hpart, rfl⟩ := Action.exists_delegationAt? hmem
  exact ⟨rfl, ⟨grammar, decl, hgrammar, hdecl, hpart⟩⟩

theorem hasDelegation (h : BuiltAs grammars set) (hdeclared : set.Declares id handle) :
    ∃ grammar, grammars[id]? = some grammar ∧ grammar.HasDelegation handle.delegation := by
  obtain ⟨rfl, hwritten⟩ := h.written hdeclared
  obtain ⟨grammar, decl, hgrammar, ⟨name, entries, entry, hstate, hentry, hdecl⟩, hpart⟩ :=
    hwritten
  refine ⟨grammar, hgrammar, Grammar.mem_delegations.mp ?_⟩
  apply List.mem_flatMap.mpr
  refine ⟨(name, entries), List.mem_of_getElem? hstate, List.mem_flatMap.mpr ?_⟩
  refine ⟨entry, List.mem_of_getElem? hentry, ?_⟩
  cases entry with
  | rule own =>
      obtain rfl := Option.some.inj hdecl
      exact Action.mem_of_delegationAt? hpart
  | default transition =>
      obtain rfl := Option.some.inj hdecl
      contradiction
  | «include» target => contradiction

-- A delegation leads to the grammar that it names, and to the state that it names there.
theorem lookup?_eq (h : BuiltAs grammars set) (hgrammars : WellFormed grammars)
    {grammar : Grammar} (hgrammar : grammars[id]? = some grammar) {delegation : Delegation}
    (hdelegation : grammar.HasDelegation delegation) :
    ∃ (target : Grammar) (number : TableId), LeadsTo grammars grammar delegation.target target ∧
      grammars[number]? = some target ∧
      set.lookup? id delegation = some ⟨number, delegation.state?.bind fun state =>
        target.stateNames.findIdx? (· == state)⟩ := by
  have hmem : grammar ∈ grammars := List.mem_of_getElem? hgrammar
  obtain ⟨target, hleads, hstates⟩ := hgrammars.delegations grammar hmem delegation hdelegation
  have hnamed : ∃ number, set.named? id delegation.target = some number ∧
      grammars[number]? = some target := by
    cases htarget : delegation.target with
    | this =>
        rw [htarget] at hleads
        obtain rfl : target = grammar := hleads
        exact ⟨id, rfl, hgrammar⟩
    | named name =>
        rw [htarget] at hleads
        obtain ⟨hmem', hname⟩ := hleads
        obtain ⟨number, -, hid, hfound, -, -⟩ := h.of_mem hgrammars.names hmem' hname
        exact ⟨number, hid, hfound⟩
  obtain ⟨number, hnumber, htarget⟩ := hnamed
  obtain ⟨table, htable, has⟩ := h.table number target htarget
  refine ⟨target, number, hleads, htarget, ?_⟩
  unfold lookup?
  rw [hnumber]
  cases hstate : delegation.state? with
  | none => rfl
  | some state =>
      have hknown := (has.stateId?_isSome state).mpr (hstates state hstate)
      obtain ⟨start, hstart⟩ := Option.isSome_iff_exists.mp hknown
      have hnumbered := (has.stateId?_eq state).symm.trans hstart
      simp [htable, hstart, hnumbered]

-- What the construction has looked up is found again by a scan.
theorem lookup?_isSome (h : BuiltAs grammars set) (hgrammars : WellFormed grammars)
    {grammar : Grammar} (hgrammar : grammars[id]? = some grammar) {delegation : Delegation}
    (hdelegation : grammar.HasDelegation delegation) : (set.lookup? id delegation).isSome := by
  obtain ⟨target, number, -, -, hlookup⟩ := h.lookup?_eq hgrammars hgrammar hdelegation
  rw [hlookup]
  rfl

end BuiltAs

end TableSet

-- A reading of a host whose answers are right as long as its memory is in order.
def Reading.ofMemory {set : TableSet} {σ : Type} {host : Host (StateM σ)} (order : σ → Prop)
    (hresolve : ∀ id handle, set.Declares id handle → ∀ memory, order memory →
      ∃ memory', host.resolve id handle memory = (set.lookup? id handle.delegation, memory') ∧
        order memory')
    (hrecord : ∀ event memory, order memory →
      ∃ memory', host.record event memory = ((), memory') ∧ order memory') :
    Reading set host where
  Gives x a _ := ∀ memory, order memory → ∃ memory', x memory = (a, memory') ∧ order memory'
  pure _ memory h := ⟨memory, rfl, h⟩
  bind {_ _ x f a b _ _} hx hf memory h := by
    obtain ⟨between, hbetween, h⟩ := hx memory h
    obtain ⟨after, hafter, h⟩ := hf between h
    refine ⟨after, ?_, h⟩
    change f (x memory).1 (x memory).2 = _
    rw [hbetween, hafter]
  map {_ _ x} f {a _} hx memory h := by
    obtain ⟨after, hafter, h⟩ := hx memory h
    refine ⟨after, ?_, h⟩
    change (f (x memory).1, (x memory).2) = _
    rw [hafter]
  resolve := hresolve
  record := hrecord

-- The answers kept so far are those that are found without a memory.
def Session.Right (set : TableSet) (session : Session) : Prop :=
  ∀ handle answer?, session.resolved.lookup handle.key = some answer? →
    ∀ id, set.Declares id handle → answer? = set.lookup? id handle.delegation

theorem Session.empty_right (set : TableSet) : Session.empty.Right set := by
  intro handle answer? hlookup
  contradiction

-- One use of a delegation by a rule of a table, with the answer it was given.
structure Consultation where
  table : TableId
  handle : Handle
  answer? : Option Target

-- The rule was written for the table that runs it, and the answer is what is found without a
-- memory; there is always one.
structure Consultation.Right (set : TableSet) (used : Consultation) : Prop where
  table : used.handle.key.table = used.table
  answer : used.answer? = set.lookup? used.table used.handle.delegation
  found : used.answer?.isSome

-- The memory of a session with a list of all that was asked, the latest last.
def TableSet.watchHost (set : TableSet) : Host (StateM (Session × List Consultation)) where
  resolve current handle := fun (session, asked) =>
    let (answer?, session) := set.liveHost.resolve current handle session
    (answer?, session, asked ++ [⟨current, handle, answer?⟩])
  record event := fun (session, asked) => ((), (set.liveHost.record event session).2, asked)

namespace TableSet.BuiltAs

variable {grammars : List Grammar} {set : TableSet}

theorem resolve_right (h : BuiltAs grammars set) {id : TableId} {handle : Handle}
    (hdeclared : set.Declares id handle) {session : Session} (hsession : session.Right set) :
    ∃ session', set.liveHost.resolve id handle session =
        (set.lookup? id handle.delegation, session') ∧ session'.Right set := by
  change ∃ session', Session.resolve set id handle session = _ ∧ _
  unfold Session.resolve
  cases hlookup : session.resolved.lookup handle.key with
  | some answer? =>
      obtain rfl := hsession handle answer? hlookup id hdeclared
      exact ⟨session, rfl, hsession⟩
  | none =>
      refine ⟨_, rfl, ?_⟩
      intro other answer? hother id' hdeclared'
      rw [List.lookup_cons] at hother
      split at hother
      case h_1 hkey =>
        -- the same key, so the same table and the same delegation
        have hkey : other.key = handle.key := by simpa using hkey
        obtain ⟨htable, hwritten⟩ := h.written hdeclared
        obtain ⟨htable', hwritten'⟩ := h.written hdeclared'
        obtain rfl := Option.some.inj hother
        rw [← htable', hwritten'.unique hwritten hkey, hkey, htable]
      case h_2 => exact hsession other answer? hother id' hdeclared'

theorem record_right {session : Session} (hsession : session.Right set) (event : Event) :
    (set.liveHost.record event session).2.Right set := by
  cases event with
  | step scan winner? => exact hsession
  | call context => exact hsession

-- Whoever asks first, the answer that is kept is the one that everybody else would have found.
def reading (h : BuiltAs grammars set) : Reading set set.liveHost :=
  .ofMemory (Session.Right set)
    (fun _ _ hdeclared _ hsession => h.resolve_right hdeclared hsession)
    (fun event _ hsession => ⟨_, rfl, record_right hsession event⟩)

theorem consultation_right (h : BuiltAs grammars set) (hgrammars : WellFormed grammars)
    {id : TableId} {handle : Handle} (hdeclared : set.Declares id handle) :
    Consultation.Right set ⟨id, handle, set.lookup? id handle.delegation⟩ := by
  obtain ⟨grammar, hgrammar, hdelegation⟩ := h.hasDelegation hdeclared
  exact ⟨(h.written hdeclared).1, rfl, h.lookup?_isSome hgrammars hgrammar hdelegation⟩

theorem watch_right (h : BuiltAs grammars set) (hgrammars : WellFormed grammars) {id : TableId}
    {handle : Handle} (hdeclared : set.Declares id handle) {session : Session}
    {asked : List Consultation} (hsession : session.Right set)
    (hasked : ∀ used ∈ asked, used.Right set) :
    ∃ session' asked', set.watchHost.resolve id handle (session, asked) =
        (set.lookup? id handle.delegation, session', asked') ∧
      session'.Right set ∧ ∀ used ∈ asked', used.Right set := by
  obtain ⟨session', hresolve, hsession'⟩ := h.resolve_right hdeclared hsession
  refine ⟨session', asked ++ [⟨id, handle, set.lookup? id handle.delegation⟩], ?_, hsession', ?_⟩
  · simp only [watchHost, hresolve]
  · intro used hmem
    rcases List.mem_append.mp hmem with hmem | hmem
    · exact hasked used hmem
    · obtain rfl := List.mem_singleton.mp hmem
      exact h.consultation_right hgrammars hdeclared

def watchReading (h : BuiltAs grammars set) (hgrammars : WellFormed grammars) :
    Reading set set.watchHost :=
  .ofMemory (fun memory => memory.1.Right set ∧ ∀ used ∈ memory.2, used.Right set)
    (fun _ _ hdeclared _ hmemory => by
      obtain ⟨session, asked, hresolve, hright⟩ :=
        h.watch_right hgrammars hdeclared hmemory.1 hmemory.2
      exact ⟨(session, asked), hresolve, hright⟩)
    (fun event _ hmemory => ⟨_, rfl, record_right hmemory.1 event, hmemory.2⟩)

end TableSet.BuiltAs

end StackLexer
