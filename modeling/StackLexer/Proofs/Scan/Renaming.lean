import Mathlib.Logic.Equiv.Basic
import StackLexer.Proofs.Scan.Independence
import StackLexer.Proofs.Table.Renumbering

namespace StackLexer

namespace StateStack

variable {numbers : StateId → StateId}

def renumber (numbers : StateId → StateId) (stack : StateStack) : StateStack :=
  ⟨numbers stack.root, stack.above.map numbers⟩

theorem renumber_top (stack : StateStack) : (stack.renumber numbers).top = numbers stack.top := by
  unfold top renumber
  cases stack.above <;> rfl

theorem renumber_step (stack : StateStack) (op : Op) :
    (stack.renumber numbers).step (op.renumber numbers) = (stack.step op).renumber numbers := by
  cases op with
  | push state => rfl
  | pushCurrent =>
      change (stack.renumber numbers).push (stack.renumber numbers).top = _
      rw [renumber_top]
      rfl
  | pop count =>
      change pop _ _ = (pop _ _).renumber numbers
      simp only [pop, renumber, List.map_drop]

theorem renumber_apply (stack : StateStack) (ops : List Op) :
    ((stack.renumber numbers).apply (ops.map (Op.renumber numbers))).1 =
      (stack.apply ops).1.renumber numbers := by
  induction ops generalizing stack with
  | nil => rfl
  | cons op ops ih =>
      rw [List.map_cons, apply_cons, apply_cons, renumber_step, ih]

end StateStack

-- A scan on the other side: its stack has the new numbers of the states of its table.
def Scan.renumber (numbers : TableId → StateId → StateId) (scan : Scan) : Scan :=
  { scan with stack := scan.stack.renumber (numbers scan.table) }

def Piece.renumber (numbers : TableId → StateId → StateId) : Piece → Piece
  | .token made => .token made
  | .nested scan => .nested (scan.renumber numbers)

def Action.isCallback {δ : Type} : Action δ → Bool
  | .callback _ => true
  | _ => false

theorem Action.isCallback_mapDelegations {δ ε : Type} (action : Action δ) (f : Nat → δ → ε) :
    (action.mapDelegations f).isCallback = action.isCallback := by
  cases action <;> rfl

def Grammar.WithoutCallbacks (grammar : Grammar) : Prop :=
  ∀ state ∈ grammar.states, ∀ entry ∈ state.2, ∀ decl ∈ entry.rule?,
    decl.action.isCallback = false

def TableSet.WithoutCallbacks (set : TableSet) : Prop :=
  ∀ table ∈ set.tables, ∀ state ∈ table.states, ∀ rule ∈ state.rules,
    rule.action.isCallback = false

-- Building adds no callbacks.
theorem TableSet.BuiltAs.withoutCallbacks {grammars : List Grammar} {set : TableSet}
    (h : BuiltAs grammars set) (hplain : ∀ grammar ∈ grammars, grammar.WithoutCallbacks) :
    set.WithoutCallbacks := by
  intro table htable state hstate rule hrule
  obtain ⟨id, hid⟩ := List.mem_iff_getElem?.mp htable
  obtain ⟨grammar, hgrammar, has⟩ := h.grammar hid
  obtain ⟨place, decl, ⟨name, entries, entry, hdeclared, hentry, hdecl⟩, hcompiled⟩ :=
    has.rules state hstate rule hrule
  rw [hcompiled.action, Action.isCallback_mapDelegations]
  exact hplain grammar (List.mem_of_getElem? hgrammar) (name, entries)
    (List.mem_of_getElem? hdeclared) entry (List.mem_of_getElem? hentry) decl hdecl

namespace Scan

variable {set set' : TableSet} {numbers : TableId → StateId → StateId} {labels : TableId → Labels}
variable {scan : Scan} {state : State} {rule : Rule} {found : Match}

theorem renumber_follow (labels : TableId → Labels) :
    (scan.renumber numbers).follow (rule.renumber (numbers scan.table) (labels scan.table)) found =
      (scan.follow rule found).renumber numbers := by
  unfold follow renumber Rule.renumber
  simp only [StateStack.renumber_apply]

theorem renumber_fresh (table : TableId) (root : StateId) (state? : Option StateId) (input : Text)
    (base depth : Nat) :
    (fresh table root state? input base depth).renumber numbers =
      fresh table (numbers table root) (state?.map (numbers table)) input base depth := by
  cases state? <;> rfl

theorem errorTokens_renumber (start : Nat) (text : Text) :
    (errorTokens start text).map (Piece.renumber numbers) = errorTokens start text := by
  induction text generalizing start with
  | nil => rfl
  | cons c text ih => exact congrArg _ (ih _)

-- A delegation leads to the same state of the same table, so the scan in there starts alike.
theorem delegated_renumber (hset : set.Renumbered numbers labels set') (handle : Handle)
    (span : Span) :
    (scan.renumber numbers).delegated set'
        (handle.renumber (numbers scan.table) (labels scan.table)) span =
      (scan.delegated set handle span).map (Piece.renumber numbers) := by
  have herrors : (scan.errorPieces span).map (Piece.renumber numbers) = scan.errorPieces span :=
    errorTokens_renumber _ _
  unfold delegated
  rw [hset.options]
  change ite (_ ≤ scan.depth) _ _ = _
  split
  case isTrue => exact herrors.symm
  case isFalse =>
    have hlookup : set'.lookup? (scan.renumber numbers).table
        (handle.renumber (numbers scan.table) (labels scan.table)).delegation =
          (set.lookup? scan.table handle.delegation).map (Target.renumber numbers) :=
      hset.lookup? scan.table handle.delegation
    rw [hlookup]
    cases set.lookup? scan.table handle.delegation with
    | none => exact herrors.symm
    | some target =>
        change ((set'.table? target.table).map _).toList =
          ((set.table? target.table).map _).toList.map _
        cases htable : set.table? target.table with
        | none =>
            rw [TableSet.table?_none_of_length hset.length htable]
            rfl
        | some table =>
            obtain ⟨table', htable', htables⟩ := hset.table? target.table table htable
            rw [htable', Option.map_some, Option.map_some, htables.root]
            exact congrArg (fun inner => [Piece.nested inner]) (renumber_fresh ..).symm

theorem piecesOf_renumber (hset : set.Renumbered numbers labels set')
    (segment : Segment (Part Handle)) :
    (scan.renumber numbers).piecesOf set' (segment.map
        (Part.map (Handle.renumber (numbers scan.table) (labels scan.table)))) =
      (scan.piecesOf set segment).map (Piece.renumber numbers) := by
  rcases segment with ⟨kind | handle, span⟩ | span
  · rfl
  · exact delegated_renumber hset handle span
  · exact (errorTokens_renumber _ _).symm

theorem cut_renumber (hplain : rule.action.isCallback = false) (state state' : State) :
    (scan.renumber numbers).cut state'
        (rule.renumber (numbers scan.table) (labels scan.table)) found =
      (scan.cut state rule found).map
        (Segment.map (Part.map (Handle.renumber (numbers scan.table) (labels scan.table)))) := by
  refine cut_map rfl rfl fun call haction => ?_
  rw [haction] at hplain
  contradiction

-- The state on top of the stack has the same rules, so the same one wins.
theorem Faces.renumber {won : Option (Rule × Match)} (hset : set.Renumbered numbers labels set')
    (h : scan.Faces set state won) :
    ∃ state', (scan.renumber numbers).Faces set' state' (won.map fun (rule, found) =>
      (rule.renumber (numbers scan.table) (labels scan.table), found)) := by
  obtain ⟨⟨table, htable, hstate⟩, place, hplace, rfl⟩ := h
  obtain ⟨table', htable', htables⟩ := hset.table? scan.table table htable
  obtain ⟨state', hstate', hrules⟩ := htables.state? _ _ hstate
  refine ⟨state', ⟨table', htable', ?_⟩, place, hplace, ?_⟩
  · change table'.state? (scan.stack.renumber _).top = _
    rw [StateStack.renumber_top]
    exact hstate'
  · rw [hrules]
    exact winner?_map (Rule.renumber _ _) (fun _ => rfl) _ _

-- A step of a scan is one that the scan with the new numbers takes as well.
theorem Steps.renumber (hset : set.Renumbered numbers labels set') (hplain : set.WithoutCallbacks)
    {next : Scan} {pieces : List Piece} {events : List Event}
    (h : scan.Steps set next pieces events) :
    ∃ events', (scan.renumber numbers).Steps set' (next.renumber numbers)
      (pieces.map (Piece.renumber numbers)) events' := by
  cases h with
  | @fail state c rest hfaces hrest =>
      obtain ⟨state', hfaces'⟩ := hfaces.renumber hset
      rw [errorTokens_renumber]
      exact ⟨_, .fail hfaces' hrest⟩
  | @take state rule found hfaces hspan =>
      obtain ⟨state', hfaces'⟩ := hfaces.renumber hset
      obtain ⟨table, htable, hstate, hrule⟩ := hfaces.rule_mem
      have hown := hplain table (List.mem_of_getElem? htable) state hstate rule hrule
      have hpieces : ((scan.cut state rule found).flatMap (scan.piecesOf set)).map
          (Piece.renumber numbers) =
            ((scan.renumber numbers).cut state'
              (rule.renumber (numbers scan.table) (labels scan.table)) found).flatMap
                ((scan.renumber numbers).piecesOf set') := by
        rw [cut_renumber hown state state', List.map_flatMap, List.flatMap_map]
        simp only [piecesOf_renumber hset]
      rw [hpieces, ← renumber_follow labels]
      exact ⟨_, .take hfaces' hspan⟩
  | @stay state rule found hfaces hspan hlimit =>
      obtain ⟨state', hfaces'⟩ := hfaces.renumber hset
      rw [← hset.options] at hlimit
      rw [← renumber_follow labels]
      exact ⟨_, .stay hfaces' hspan hlimit⟩
  | @force state rule found c rest hfaces hspan hlimit hrest =>
      obtain ⟨state', hfaces'⟩ := hfaces.renumber hset
      rw [← hset.options] at hlimit
      have hskip : ((scan.follow rule found).skip c).renumber numbers =
          ((scan.follow rule found).renumber numbers).skip c := rfl
      rw [errorTokens_renumber, hskip, ← renumber_follow labels]
      exact ⟨_, .force hfaces' hspan hlimit hrest⟩

end Scan

def Simulation.renumber {set set' : TableSet} {numbers : TableId → StateId → StateId}
    {labels : TableId → Labels} (hset : set.Renumbered numbers labels set')
    (hplain : set.WithoutCallbacks) : Simulation set set' where
  Scans scan scan' := scan' = scan.renumber numbers
  Tokens := Eq
  Records _ _ := True
  nil := trivial
  append _ _ := trivial
  done := by
    rintro scan _ rfl
    rfl
  step := by
    rintro scan _ next pieces events rfl - - hstep
    obtain ⟨events', hstep'⟩ := hstep.renumber hset hplain
    refine ⟨next.renumber numbers, pieces.map (Piece.renumber numbers), events', hstep', rfl, ?_,
      trivial⟩
    apply List.forall₂_map_right_iff.mpr
    apply List.forall₂_same.mpr
    intro piece _
    cases piece with
    | token made => exact .token rfl
    | nested inner => exact .nested rfl

-- Words, quotations, and numbers in angle brackets, which begin in a state of another grammar. In
-- both grammars the renaming moves a state from before the root state to behind it.
def Grammar.quoting : Grammar :=
  (((Grammar.new "quoting").setState "root"
    [.include "words",
     .rule ⟨"'", .token .string, ⟨[.push "quoted"]⟩⟩,
     .rule ⟨"<([0-9]*)>", .groups [.delegate ⟨.named "cells", some "digits"⟩], ⟨[]⟩⟩]).setState
      "quoted"
    [.rule ⟨"'", .token .string, ⟨[.pop 1]⟩⟩,
     .include "words"]).setState "words"
    [.rule ⟨"[a-z]+", .token .name, ⟨[]⟩⟩]

def Grammar.cells : Grammar :=
  ((Grammar.new "cells").setState "root"
    [.include "digits"]).setState "digits"
    [.rule ⟨"[0-9]", .token .number, ⟨[]⟩⟩]

def Renaming.sample : Renaming
  | 0 => Equiv.swap "quoted" "string"
  | _ => Equiv.swap "digits" "unit"

namespace TableSet

-- A table and its counterpart under the new names make the same tokens.
theorem Renumbered.agrees {grammars grammars' : List Grammar} {set set' : TableSet}
    {numbers : TableId → StateId → StateId} {labels : TableId → Labels}
    (hset : set.Renumbered numbers labels set') (hplain : set.WithoutCallbacks)
    (hbuilt : BuiltAs grammars set) (hbuilt' : BuiltAs grammars' set') {id : TableId}
    (hlt : id < set.tables.length) : Lexer.Agrees ⟨set, id⟩ ⟨set', id⟩ := by
  obtain ⟨table, htable, -⟩ := hbuilt.sound.table_of_lt hlt
  obtain ⟨table', htable', htables⟩ := hset.table? id table htable
  apply (Simulation.renumber hset hplain).agrees (fun _ _ heq => heq) hbuilt hbuilt' htable htable'
  intro text
  change Scan.start id table'.root text = (Scan.start id table.root text).renumber numbers
  rw [htables.root]
  rfl

-- Other names for the states of a list of grammars that makes no use of callbacks, the same ones
-- wherever a state is named: the list is built if it was built before, and all its lexers make the
-- same tokens of every text.
theorem renamed_states_agree (grammars : List Grammar) (options : Options) (renames : Renaming)
    (hinjective : ∀ id, Function.Injective (renames id))
    (hroot : ∀ id, renames id Grammar.rootName = Grammar.rootName)
    (hplain : ∀ grammar ∈ grammars, grammar.WithoutCallbacks) :
    ((∃ set, build grammars options = .ok set) ↔
      ∃ set', build (renameAll renames grammars) options = .ok set') ∧
    ∀ set set', build grammars options = .ok set →
      build (renameAll renames grammars) options = .ok set' →
        (∀ name, Option.Rel Lexer.Agrees (Lexer.ofSet? set name) (Lexer.ofSet? set' name)) ∧
        set'.tables.length = set.tables.length ∧
        ∀ id < set.tables.length, Lexer.Agrees ⟨set, id⟩ ⟨set', id⟩ := by
  have hrenamed : Renamed renames grammars (renameAll renames grammars) :=
    renamed_renameAll hinjective hroot
  constructor
  · have hwellFormed := hrenamed.wellFormed_iff
    constructor
    · rintro ⟨set, hbuild⟩
      have hgrammars := ((build_settles grammars options).of_ok hbuild).2
      exact build_ok_of_wellFormed (hwellFormed.mpr hgrammars) options
    · rintro ⟨set', hbuild'⟩
      have hgrammars' := ((build_settles _ options).of_ok hbuild').2
      exact build_ok_of_wellFormed (hwellFormed.mp hgrammars') options
  · intro set set' hbuild hbuild'
    have hbuilt := ((build_settles grammars options).of_ok hbuild).1
    have hbuilt' := ((build_settles _ options).of_ok hbuild').1
    have hoptions := (options_of_build hbuild').trans (options_of_build hbuild).symm
    have hset := hrenamed.renumbered hbuilt hbuilt' hoptions
    have hagrees : ∀ id < set.tables.length, Lexer.Agrees ⟨set, id⟩ ⟨set', id⟩ :=
      fun id hlt => hset.agrees (hbuilt.withoutCallbacks hplain) hbuilt hbuilt' hlt
    refine ⟨?_, hset.length, hagrees⟩
    intro name
    have hid : set'.id? name = set.id? name := by
      rw [hbuilt'.id?_eq, hbuilt.id?_eq]
      exact hrenamed.target?_eq 0 (.named name)
    rw [Lexer.ofSet?, Lexer.ofSet?, hid]
    cases hname : set.id? name with
    | none => exact .none
    | some id => exact .some (hagrees id (hbuilt.sound.index name id hname))

theorem quoting_renamed_states_agree :
    ∃ set set', build [.quoting, .cells] .sample = .ok set ∧
      build (renameAll .sample [.quoting, .cells]) .sample = .ok set' ∧
      (set.table? 0).map Table.root = some 1 ∧ (set'.table? 0).map Table.root = some 0 ∧
      (∀ name, Option.Rel Lexer.Agrees (Lexer.ofSet? set name) (Lexer.ofSet? set' name)) ∧
      ∀ id < set.tables.length, Lexer.Agrees ⟨set, id⟩ ⟨set', id⟩ := by
  have hbuilds : ((build [.quoting, .cells] .sample).toOption.any fun set =>
      decide ((set.table? 0).map Table.root = some 1)) = true := by
    decide +kernel
  have hbuilds' : ((build (renameAll .sample [.quoting, .cells]) .sample).toOption.any fun set' =>
      decide ((set'.table? 0).map Table.root = some 0)) = true := by
    decide +kernel
  obtain ⟨set, hbuild, hnumber⟩ := exists_ok_of_any hbuilds
  obtain ⟨set', hbuild', hnumber'⟩ := exists_ok_of_any hbuilds'
  have hinjective : ∀ id, Function.Injective (Renaming.sample id) := by
    intro id
    cases id <;> exact Equiv.injective _
  have hroot : ∀ id, Renaming.sample id Grammar.rootName = Grammar.rootName := by
    intro id
    cases id <;> exact Equiv.swap_apply_of_ne_of_ne (by decide) (by decide)
  have hplain : ∀ grammar ∈ [Grammar.quoting, .cells], grammar.WithoutCallbacks := by
    unfold Grammar.WithoutCallbacks
    decide
  obtain ⟨-, hagrees⟩ :=
    renamed_states_agree [.quoting, .cells] .sample .sample hinjective hroot hplain
  obtain ⟨hnames, -, htables⟩ := hagrees set set' hbuild hbuild'
  exact ⟨set, set', hbuild, hbuild', of_decide_eq_true hnumber, of_decide_eq_true hnumber', hnames,
    htables⟩

end TableSet

end StackLexer
