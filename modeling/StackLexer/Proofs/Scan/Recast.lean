import StackLexer.Proofs.Scan.Independence
import StackLexer.Proofs.Table.Recast

namespace StackLexer

namespace Segment

variable {α : Type}

theorem gap_self (offset : Nat) : (gap offset offset : List (Segment α)) = [] :=
  if_neg (Nat.lt_irrefl offset)

-- A piece that claims all of the span gets it.
theorem partition_whole {text : Text} {span : Span} (hlt : span.start < span.stop)
    (hstart : text.isBoundary span.start = true) (hstop : text.isBoundary span.stop = true)
    (value : α) : partition text span [(value, span)] = [.claimed value span] := by
  rw [partition, partitionFrom, partitionFrom, Nat.max_self, Nat.min_self,
    if_pos ⟨hlt, hstart, hstop⟩, gap_self, gap_self, List.nil_append]

end Segment

namespace Scan

variable {set set' : TableSet} {scan : Scan} {state state' : State} {rule rule' : Rule}
variable {found : Match}

-- The kinds of groups, by the number of each or side by side with them.
theorem groupPieces_kinds (kinds : List Kind) (groups before : List (Option Span)) :
    (kinds.zipIdx before.length).filterMap (fun numbered =>
      ((before ++ groups)[numbered.2]?).join.map (Part.kind (δ := Handle) numbered.1, ·)) =
      groupPieces (kinds.map .kind) groups := by
  induction kinds generalizing groups before with
  | nil => rfl
  | cons kind kinds ih =>
      cases groups with
      | nil =>
          rw [groupPieces, List.zip_nil_right, List.append_nil]
          apply List.filterMap_eq_nil_iff.mpr
          intro numbered hmem
          rw [List.getElem?_eq_none (List.le_snd_of_mem_zipIdx hmem)]
          rfl
      | cons span? groups =>
          have hrest := ih groups (before ++ [span?])
          rw [List.append_assoc, List.length_append] at hrest
          have hfirst : (before ++ span? :: groups)[before.length]? = some span? := by simp
          rw [List.zipIdx_cons, groupPieces, List.map_cons, List.zip_cons_cons]
          simp only [List.filterMap_cons, hfirst]
          cases span? with
          | none => exact hrest
          | some span => exact congrArg (_ :: ·) hrest

-- A match of some text is cut alike.
theorem cut_recast (hscan : scan.Sound set) (hfaces : scan.Faces set state (some (rule, found)))
    (hspan : scan.cursor < found.span.stop) (hstate : state.Recast state')
    (hrule : rule.Recast rule') :
    scan.cut state' rule' found = scan.cut state rule found := by
  obtain ⟨hstart, -, hstop⟩ := hfaces.match_span hscan
  have hview : scan.view state' found = scan.view state found := by rw [view, view, hstate.name]
  obtain ⟨pattern, action, ops, origin⟩ := rule
  obtain ⟨pattern', action', ops', origin'⟩ := rule'
  have haction : action.Recast action' := hrule.action
  cases haction with
  | same => simp only [cut, hview]
  | @token kind =>
      have hcursor : scan.input.isBoundary found.span.start = true := hstart ▸ hscan.cursor
      exact Segment.partition_whole (hstart ▸ hspan) hcursor hstop (Part.kind kind)
  | @groups kinds =>
      have hkinds : ((Callback.ofKinds kinds).run (scan.view state' found)).map
          (fun own => (Part.kind (δ := Handle) own.1, own.2)) =
            groupPieces (kinds.map .kind) found.groups := by
        rw [← groupPieces_kinds kinds found.groups [some found.span], Callback.ofKinds,
          List.map_filterMap]
        apply List.filterMap_congr
        intro numbered _
        rw [Option.map_map]
        rfl
      exact congrArg (Segment.partition scan.input found.span) hkinds

theorem winner?_recast {rules rules' : List Rule} (h : List.Forall₂ Rule.Recast rules rules')
    (place : Place) :
    Option.Rel (fun won won' => won.1.Recast won'.1 ∧ won'.2 = won.2) (winner? rules place)
      (winner? rules' place) := by
  induction h with
  | nil => exact .none
  | @cons rule rule' rules rules' hfirst _ ih =>
      rw [winner?, winner?, List.findSome?_cons, List.findSome?_cons, hfirst.pattern]
      cases rule.pattern.matchAt place with
      | none => exact ih
      | some found => exact .some ⟨hfirst, rfl⟩

-- The same rule wins in both sets, with the same match.
theorem Faces.recast {won : Option (Rule × Match)} (hset : set.Recast set')
    (h : scan.Faces set state won) :
    ∃ state' won', scan.Faces set' state' won' ∧ state.Recast state' ∧
      Option.Rel (fun won won' => won.1.Recast won'.1 ∧ won'.2 = won.2) won won' := by
  obtain ⟨⟨table, htable, hstate⟩, place, hplace, rfl⟩ := h
  obtain ⟨table', htable', htables⟩ := hset.table? _ _ htable
  obtain ⟨state', hstate', hstates⟩ := htables.state? _ _ hstate
  exact ⟨state', _, ⟨⟨table', htable', hstate'⟩, place, hplace, rfl⟩, hstates,
    winner?_recast hstates.rules place⟩

theorem Faces.recast_some (hset : set.Recast set')
    (h : scan.Faces set state (some (rule, found))) :
    ∃ state' rule', scan.Faces set' state' (some (rule', found)) ∧ state.Recast state' ∧
      rule.Recast rule' ∧ scan.follow rule' found = scan.follow rule found := by
  obtain ⟨state', won', hfaces, hstate, hwon⟩ := h.recast hset
  cases hwon with
  | @some _ won' hwon =>
      obtain ⟨rule', found'⟩ := won'
      obtain ⟨hrule, rfl⟩ := hwon
      refine ⟨state', rule', hfaces, hstate, hrule, ?_⟩
      rw [follow, follow, hrule.ops]

end Scan

namespace TableSet.Recast

variable {set set' : TableSet}

theorem table?_none (h : set.Recast set') {id : TableId} (htable : set.table? id = none) :
    set'.table? id = none :=
  table?_none_of_length h.length htable

-- Delegations lead to the same places.
theorem lookup?_eq (h : set.Recast set') (id : TableId) (delegation : Delegation) :
    set'.lookup? id delegation = set.lookup? id delegation := by
  have hnamed : set'.named? id delegation.target = set.named? id delegation.target := by
    cases delegation.target with
    | this => rfl
    | named name => rw [named?, named?, id?, id?, h.index]
  unfold lookup?
  rw [hnamed]
  congr 1
  funext number
  cases htable : set.table? number with
  | none => rw [h.table?_none htable]
  | some table =>
      obtain ⟨table', htable', htables⟩ := h.table? number table htable
      rw [htable']
      cases delegation.state? with
      | none => rfl
      | some name => simp [htables.stateId?]

theorem delegated_eq (h : set.Recast set') (scan : Scan) (handle : Handle) (span : Span) :
    scan.delegated set' handle span = scan.delegated set handle span := by
  unfold Scan.delegated
  rw [h.options, h.lookup?_eq]
  split
  · rfl
  · split
    · rfl
    · rename_i target _
      cases htable : set.table? target.table with
      | none => rw [h.table?_none htable]
      | some table =>
          obtain ⟨table', htable', htables⟩ := h.table? _ _ htable
          rw [htable', Option.map_some, Option.map_some, htables.root]

theorem piecesOf_eq (h : set.Recast set') (scan : Scan) :
    scan.piecesOf set' = scan.piecesOf set := by
  funext segment
  rcases segment with ⟨kind | handle, span⟩ | span
  · rfl
  · exact h.delegated_eq scan handle span
  · rfl

end TableSet.Recast

-- Where callbacks stand for kinds, a scan takes the same steps.
theorem Scan.Steps.recast {set set' : TableSet} (hset : set.Recast set') {scan next : Scan}
    (hscan : scan.Sound set) {pieces : List Piece} {events : List Event}
    (h : scan.Steps set next pieces events) : ∃ events', scan.Steps set' next pieces events' := by
  cases h with
  | fail hfaces hrest =>
      obtain ⟨state', won', hfaces', -, hwon⟩ := hfaces.recast hset
      cases hwon
      exact ⟨_, .fail hfaces' hrest⟩
  | @take state rule found hfaces hspan =>
      obtain ⟨state', rule', hfaces', hstate, hrule, hfollow⟩ := hfaces.recast_some hset
      rw [← hfollow, ← cut_recast hscan hfaces hspan hstate hrule, ← hset.piecesOf_eq]
      exact ⟨_, .take hfaces' hspan⟩
  | stay hfaces hspan hlimit =>
      obtain ⟨state', rule', hfaces', -, -, hfollow⟩ := hfaces.recast_some hset
      rw [← hset.options] at hlimit
      rw [← hfollow]
      exact ⟨_, .stay hfaces' hspan hlimit⟩
  | force hfaces hspan hlimit hrest =>
      obtain ⟨state', rule', hfaces', -, -, hfollow⟩ := hfaces.recast_some hset
      rw [← hset.options] at hlimit
      rw [← hfollow]
      exact ⟨_, .force hfaces' hspan hlimit hrest⟩

def Simulation.recast {set set' : TableSet} (hset : set.Recast set') : Simulation set set' where
  Scans := Eq
  Tokens := Eq
  Records _ _ := True
  nil := trivial
  append _ _ := trivial
  done := by
    rintro scan _ rfl
    rfl
  step := by
    rintro scan _ next pieces events rfl hscan - hstep
    obtain ⟨events', hstep'⟩ := hstep.recast hset hscan
    refine ⟨next, pieces, events', hstep', rfl, ?_, trivial⟩
    apply List.forall₂_same.mpr
    intro piece _
    cases piece with
    | token made => exact .token rfl
    | nested inner => exact .nested rfl

-- Assignments of numbers to names, names alone, and brackets, the inside of which is scanned again.
def Grammar.pairs (word pair : Action Delegation) : Grammar :=
  (Grammar.new "pairs").setState "root"
    [.rule ⟨"([a-z]+)=(([0-9]+)|x)", pair, ⟨[]⟩⟩,
     .rule ⟨"[a-z]+", word, ⟨[]⟩⟩,
     .rule ⟨"<([<-z]*)>", .groups [.delegate ⟨.this, none⟩], ⟨[]⟩⟩]

theorem Grammar.pairs_recast {word word' pair pair' : Action Delegation}
    (hword : word.Recast word') (hpair : pair.Recast pair') :
    (pairs word pair).Recast (pairs word' pair') where
  name := rfl
  aliases := rfl
  flags := rfl
  states := .cons ⟨rfl, .cons (.rule ⟨rfl, hpair, rfl⟩) (.cons (.rule ⟨rfl, hword, rfl⟩)
    (.cons (.rule ⟨rfl, .same, rfl⟩) .nil))⟩ .nil

namespace TableSet

-- Callbacks in the place of kinds, in any rules of a list of grammars that is built: the list is
-- built again, its names lead to the same tables, and every table gives the same tokens.
theorem callbacks_agree {grammars grammars' : List Grammar} {options : Options} {set : TableSet}
    (hbuild : build grammars options = .ok set)
    (hrecast : List.Forall₂ Grammar.Recast grammars grammars') :
    ∃ set', build grammars' options = .ok set' ∧ set'.tables.length = set.tables.length ∧
      (∀ name, set'.id? name = set.id? name) ∧
      ∀ id < set.tables.length, Lexer.Agrees ⟨set, id⟩ ⟨set', id⟩ := by
  obtain ⟨set', hbuild', hset⟩ := exists_recast hbuild hrecast
  have hbuilt := ((build_settles grammars options).of_ok hbuild).1
  have hbuilt' := ((build_settles grammars' options).of_ok hbuild').1
  refine ⟨set', hbuild', hset.length, fun name => ?_, fun id hlt => ?_⟩
  · rw [id?, id?, hset.index]
  · obtain ⟨table, htable, -⟩ := hbuilt.sound.table_of_lt hlt
    obtain ⟨table', htable', htables⟩ := hset.table? id table htable
    apply (Simulation.recast hset).agrees (fun _ _ heq => heq) hbuilt hbuilt' htable htable'
    intro text
    change Scan.start id table.root text = Scan.start id table'.root text
    rw [htables.root]

theorem pairs_callbacks_agree :
    ∃ set, build [.pairs (.token .name) (.groups ([.name, .text, .number].map .kind))] .sample =
        .ok set ∧
      List.Forall₂ Grammar.Recast
        [.pairs (.token .name) (.groups ([.name, .text, .number].map .kind))]
        [.pairs (.callback (.ofKind .name)) (.callback (.ofKinds [.name, .text, .number]))] ∧
      ∃ set', build
          [.pairs (.callback (.ofKind .name)) (.callback (.ofKinds [.name, .text, .number]))]
          .sample = .ok set' ∧
        set'.tables.length = set.tables.length ∧ (∀ name, set'.id? name = set.id? name) ∧
        ∀ id < set.tables.length, Lexer.Agrees ⟨set, id⟩ ⟨set', id⟩ := by
  have hbuilds : (build [.pairs (.token .name) (.groups ([.name, .text, .number].map .kind))]
      .sample).toBool = true := by
    decide +kernel
  obtain ⟨set, hbuild⟩ := exists_ok hbuilds
  have hrecast := Grammar.pairs_recast (@Action.Recast.token _ .name)
    (@Action.Recast.groups _ [.name, .text, .number])
  exact ⟨set, hbuild, .cons hrecast .nil, callbacks_agree hbuild (.cons hrecast .nil)⟩

end TableSet

end StackLexer
