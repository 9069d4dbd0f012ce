import StackLexer.Proofs.Scan.Memory
import StackLexer.Proofs.Scan.Simulation
import StackLexer.Proofs.Table.Relocation

namespace StackLexer

namespace Segment

variable {α β : Type} (f : α → β)

def map : Segment α → Segment β
  | .claimed value span => .claimed (f value) span
  | .unclaimed span => .unclaimed span

theorem map_gap (start stop : Nat) : (gap start stop).map (map f) = gap start stop := by
  unfold gap
  split <;> rfl

-- What is claimed has no part in where it is cut.
theorem partitionFrom_map (text : Text) (stop cursor : Nat) (pieces : List (α × Span)) :
    partitionFrom text stop cursor (pieces.map fun (value, span) => (f value, span)) =
      (partitionFrom text stop cursor pieces).map (map f) := by
  induction pieces generalizing cursor with
  | nil => exact (map_gap f cursor stop).symm
  | cons piece pieces ih =>
      obtain ⟨value, span⟩ := piece
      simp only [List.map_cons, partitionFrom]
      split
      · rw [List.map_append, List.map_cons, map_gap, ih]
        rfl
      · exact ih cursor

end Segment

def Scan.moveTo (id : TableId) (scan : Scan) : Scan := { scan with table := id }

def Event.moveTo (id : TableId) : Event → Event
  | .step scan winner? => .step (scan.moveTo id) (winner?.map (Rule.moveTo id))
  | .call context => .call context

-- Two sets with one grammar, in place `id` of the first and in place `id'` of the second. What its
-- rules delegate goes to scans that `Inner` relates.
structure TableSet.Twins (set set' : TableSet) (id id' : TableId) (Inner : Scan → Scan → Prop) :
    Prop where
  options : set'.options = set.options
  table : ∃ table table', set.table? id = some table ∧ set'.table? id' = some table' ∧
    table.Moved id' table'
  delegated : ∀ (scan : Scan) handle span, scan.table = id → set.Declares id handle →
    List.Forall₂ (Piece.Related Eq Inner) (scan.delegated set handle span)
      ((scan.moveTo id').delegated set' (handle.moveTo id') span)

namespace Scan

variable {set set' : TableSet} {id id' : TableId} {Inner : Scan → Scan → Prop} {scan : Scan}
variable {state : State} {rule : Rule} {found : Match}

-- Rules with the same patterns win in the same places.
theorem winner?_map (f : Rule → Rule) (hpattern : ∀ rule, (f rule).pattern = rule.pattern)
    (rules : List Rule) (place : Place) :
    winner? (rules.map f) place =
      (winner? rules place).map fun (rule, found) => (f rule, found) := by
  rw [winner?, winner?, List.findSome?_map, List.map_findSome?]
  congr 1
  funext rule
  simp only [Function.comp_apply, Option.map_map, hpattern]
  rfl

theorem groupPieces_map {f : Handle → Handle} (parts : List (Part Handle))
    (groups : List (Option Span)) :
    groupPieces (parts.map (Part.map f)) groups =
      (groupPieces parts groups).map fun (part, span) => (part.map f, span) := by
  unfold groupPieces
  rw [List.zip_map_left, List.filterMap_map, List.map_filterMap]
  apply List.filterMap_congr
  rintro ⟨part, span?⟩ -
  cases span? <;> rfl

-- What is delegated has no part in how a match is cut.
theorem cut_map {f : Handle → Handle} {scan' : Scan} {state' : State} {rule' : Rule}
    (haction : rule'.action = rule.action.map f) (hinput : scan'.input = scan.input)
    (hview : ∀ call, rule.action = .callback call →
      scan'.view state' found = scan.view state found) :
    scan'.cut state' rule' found =
      (scan.cut state rule found).map (Segment.map (Part.map f)) := by
  obtain ⟨pattern, action, ops, origin⟩ := rule
  obtain ⟨pattern', action', ops', origin'⟩ := rule'
  obtain rfl : action' = action.map f := haction
  cases action with
  | token kind => rfl
  | delegate handle => rfl
  | groups parts =>
      simp only [cut, Action.map, groupPieces_map, hinput]
      exact Segment.partitionFrom_map _ _ _ _ _
  | callback call =>
      simp only [cut, Action.map, hinput, hview call rfl]
      rw [Segment.partition, ← Segment.partitionFrom_map, List.map_map]
      rfl

theorem cut_moveTo :
    (scan.moveTo id').cut (state.moveTo id') (rule.moveTo id') found =
      (scan.cut state rule found).map (Segment.map (Part.map (Handle.moveTo id'))) :=
  cut_map rfl rfl fun _ _ => rfl

theorem calls_moveTo :
    (scan.moveTo id').calls (state.moveTo id') (rule.moveTo id') found =
      (scan.calls state rule found).map (Event.moveTo id') := by
  obtain ⟨pattern, action, ops, origin⟩ := rule
  cases action <;> rfl

theorem errorTokens_related (start : Nat) (text : Text) :
    List.Forall₂ (Piece.Related Eq Inner) (errorTokens start text) (errorTokens start text) := by
  induction text generalizing start with
  | nil => exact .nil
  | cons c text ih => exact .cons (.token rfl) (ih _)

theorem piecesOf_moveTo (htwins : set.Twins set' id id' Inner) (htable : scan.table = id)
    {segments : List (Segment (Part Handle))}
    (hdeclared : ∀ handle span, .claimed (.delegate handle) span ∈ segments →
      set.Declares id handle) :
    List.Forall₂ (Piece.Related Eq Inner) (segments.flatMap (scan.piecesOf set))
      ((segments.map (Segment.map (Part.map (Handle.moveTo id')))).flatMap
        ((scan.moveTo id').piecesOf set')) := by
  induction segments with
  | nil => exact .nil
  | cons segment segments ih =>
      have hrest := ih fun handle span hmem => hdeclared handle span (List.mem_cons_of_mem _ hmem)
      rw [List.map_cons, List.flatMap_cons, List.flatMap_cons]
      apply List.rel_append _ hrest
      cases segment with
      | unclaimed span => exact errorTokens_related _ _
      | claimed part span =>
          cases part with
          | kind kind => exact .cons (.token rfl) .nil
          | delegate handle =>
              have hhandle := hdeclared handle span (by simp)
              exact htwins.delegated scan handle span htable hhandle

theorem Faces.moveTo {won : Option (Rule × Match)} (htwins : set.Twins set' id id' Inner)
    (htable : scan.table = id) (h : scan.Faces set state won) :
    (scan.moveTo id').Faces set' (state.moveTo id')
      (won.map fun (rule, found) => (rule.moveTo id', found)) := by
  obtain ⟨⟨table, hown, hstate⟩, place, hplace, rfl⟩ := h
  obtain ⟨first, second, hfirst, hsecond, hmoved⟩ := htwins.table
  rw [htable] at hown
  obtain rfl := Option.some.inj (hown.symm.trans hfirst)
  refine ⟨⟨second, hsecond, ?_⟩, place, hplace, winner?_map (Rule.moveTo id') (fun _ => rfl) _ _⟩
  have hstate' := hmoved.state? scan.stack.top
  rwa [hstate] at hstate'

-- A step of a scan is one that it also takes in the other set.
theorem Steps.moveTo (htwins : set.Twins set' id id' Inner) (htable : scan.table = id)
    {next : Scan} {pieces : List Piece} {events : List Event}
    (h : scan.Steps set next pieces events) :
    ∃ pieces', (scan.moveTo id').Steps set' (next.moveTo id') pieces'
        (events.map (Event.moveTo id')) ∧
      List.Forall₂ (Piece.Related Eq Inner) pieces pieces' := by
  cases h with
  | @fail state c rest hfaces hrest =>
      have hfaces' := hfaces.moveTo htwins htable
      exact ⟨_, .fail hfaces' hrest, errorTokens_related _ _⟩
  | @take state rule found hfaces hspan =>
      have hfaces' := hfaces.moveTo htwins htable
      refine ⟨((scan.moveTo id').cut (state.moveTo id') (rule.moveTo id') found).flatMap
        ((scan.moveTo id').piecesOf set'), ?_, ?_⟩
      · rw [List.map_cons, ← calls_moveTo]
        exact .take hfaces' hspan
      · rw [cut_moveTo]
        apply piecesOf_moveTo htwins htable
        rw [← htable]
        exact fun handle span hmem => hfaces.cut_declared hmem
  | @stay state rule found hfaces hspan hlimit =>
      have hfaces' := hfaces.moveTo htwins htable
      rw [← htwins.options] at hlimit
      exact ⟨[], .stay hfaces' hspan hlimit, .nil⟩
  | @force state rule found c rest hfaces hspan hlimit hrest =>
      have hfaces' := hfaces.moveTo htwins htable
      rw [← htwins.options] at hlimit
      exact ⟨_, .force hfaces' hspan hlimit hrest, errorTokens_related _ _⟩

end Scan

-- Scans of one grammar that start alike are the same but for the number of their table.
theorem Grammar.TableAs.fresh_eq {grammar : Grammar} {id id' : TableId} {table table' : Table}
    (h : grammar.TableAs id table) (h' : grammar.TableAs id' table') (state? : Option StateId)
    (input : Text) (base depth : Nat) :
    Scan.fresh id' table'.root state? input base depth =
      (Scan.fresh id table.root state? input base depth).moveTo id' := by
  rw [h'.root.unique h.root]
  rfl

namespace TableSet.BuiltAs

variable {grammars grammars' : List Grammar} {set set' : TableSet}

-- The scan that a delegation leads to, or errors where it would lie too deep.
theorem delegated_eq (h : BuiltAs grammars set) (hgrammars : WellFormed grammars)
    {grammar : Grammar} {scan : Scan} (hgrammar : grammars[scan.table]? = some grammar)
    {handle : Handle} (hdelegation : grammar.HasDelegation handle.delegation) (span : Span) :
    ∃ (target : Grammar) (number : TableId) (table : Table),
      LeadsTo grammars grammar handle.delegation.target target ∧
      grammars[number]? = some target ∧ target.TableAs number table ∧
      scan.delegated set handle span =
        if set.options.maxDelegationDepth ≤ scan.depth then scan.errorPieces span
        else [.nested (.fresh number table.root
          (handle.delegation.state?.bind fun state => target.stateNames.findIdx? (· == state))
          ((scan.input.slice? span).getD []) (scan.base + span.start) (scan.depth + 1))] := by
  obtain ⟨target, number, hleads, htarget, hlookup⟩ := h.lookup?_eq hgrammars hgrammar hdelegation
  obtain ⟨table, htable, has⟩ := h.table number target htarget
  refine ⟨target, number, table, hleads, htarget, has, ?_⟩
  unfold Scan.delegated
  simp only [hlookup, htable, Option.map_some, Option.toList_some]

-- A grammar of two lists has its twins in the sets that they are built to, if what it delegates
-- leads to related scans.
theorem twins (h : BuiltAs grammars set) (hgrammars : WellFormed grammars)
    (h' : BuiltAs grammars' set') (hgrammars' : WellFormed grammars')
    (hoptions : set'.options = set.options) {grammar : Grammar} {id id' : TableId}
    (hgrammar : grammars[id]? = some grammar) (hgrammar' : grammars'[id']? = some grammar)
    {Inner : Scan → Scan → Prop}
    (hinner : ∀ (delegation : Delegation) (target target' : Grammar) (number number' : TableId)
      (table table' : Table) (text : Text) (base depth : Nat),
      LeadsTo grammars grammar delegation.target target →
      LeadsTo grammars' grammar delegation.target target' →
      grammars[number]? = some target → grammars'[number']? = some target' →
      target.TableAs number table → target'.TableAs number' table' →
      Inner
        (.fresh number table.root (delegation.state?.bind fun state =>
          target.stateNames.findIdx? (· == state)) text base depth)
        (.fresh number' table'.root (delegation.state?.bind fun state =>
          target'.stateNames.findIdx? (· == state)) text base depth)) :
    set.Twins set' id id' Inner where
  options := hoptions
  table := by
    obtain ⟨table, htable, has⟩ := h.table id grammar hgrammar
    obtain ⟨table', htable', has'⟩ := h'.table id' grammar hgrammar'
    exact ⟨table, table', htable, htable', has.moved has'⟩
  delegated := by
    rintro scan handle span rfl hdeclared
    obtain ⟨other, hother, hdelegation⟩ := h.hasDelegation hdeclared
    obtain rfl := Option.some.inj (hgrammar.symm.trans hother)
    obtain ⟨target, number, table, hleads, htarget, has, heq⟩ :=
      h.delegated_eq hgrammars hgrammar hdelegation span
    have hmoved : grammars'[(scan.moveTo id').table]? = some grammar := hgrammar'
    have hdelegation' : grammar.HasDelegation (handle.moveTo id').delegation := hdelegation
    obtain ⟨target', number', table', hleads', htarget', has', heq'⟩ :=
      h'.delegated_eq hgrammars' hmoved hdelegation' span
    rw [heq, heq', hoptions]
    change List.Forall₂ _ (ite _ _ _) (ite (_ ≤ scan.depth) _ _)
    split
    · exact Scan.errorTokens_related _ _
    · have hscans := hinner _ target target' number number' table table'
        ((scan.input.slice? span).getD []) (scan.base + span.start) (scan.depth + 1)
        hleads hleads' htarget htarget' has has'
      exact .cons (.nested hscans) .nil

end TableSet.BuiltAs

end StackLexer
