import StackLexer.Proofs.Regex.Search
import StackLexer.Proofs.Scan.Pieces

namespace StackLexer.Scan

variable {set : TableSet} {scan : Scan}

-- The state on top of the stack, and what its rules match at the cursor.
structure Faces (set : TableSet) (scan : Scan) (state : State) (won : Option (Rule × Match)) :
    Prop where
  table : ∃ table, set.table? scan.table = some table ∧
    table.state? scan.stack.top = some state
  place : ∃ place, scan.input.place? scan.cursor = some place ∧ winner? state.rules place = won

-- The scan behind the next character.
def skip (scan : Scan) (c : Char) : Scan :=
  { scan with cursor := scan.cursor + c.utf8Size, emptySteps := 0 }

-- A step skips a character, or takes a match, or stays where it is after a match of no text; if it
-- has stayed too often, it skips a character as well.
inductive Steps (set : TableSet) (scan : Scan) : Scan → List Piece → List Event → Prop where
  | fail {state c rest} (hfaces : scan.Faces set state none) (hrest : scan.rest = c :: rest) :
      Steps set scan (scan.skip c) (errorTokens scan.offset [c]) [.step scan none]
  | take {state rule found} (hfaces : scan.Faces set state (some (rule, found)))
      (hspan : scan.cursor < found.span.stop) :
      Steps set scan (scan.follow rule found)
        ((scan.cut state rule found).flatMap (scan.piecesOf set))
        (.step scan (some rule) :: scan.calls state rule found)
  | stay {state rule found} (hfaces : scan.Faces set state (some (rule, found)))
      (hspan : found.span.stop = scan.cursor)
      (hlimit : scan.emptySteps < set.options.maxEmptySteps) :
      Steps set scan (scan.follow rule found) [] [.step scan (some rule)]
  | force {state rule found c rest} (hfaces : scan.Faces set state (some (rule, found)))
      (hspan : found.span.stop = scan.cursor)
      (hlimit : set.options.maxEmptySteps ≤ scan.emptySteps) (hrest : scan.rest = c :: rest) :
      Steps set scan ((scan.follow rule found).skip c) (errorTokens scan.offset [c])
        [.step scan (some rule)]

-- A piece of a group action is a part of it, with the span of the group in the same place.
-- Part `i` is put together with group `i` of those behind the whole match.
theorem groupPieces_eq (parts : List (Part Handle)) (groups : List (Option Span)) :
    groupPieces parts groups = (List.range parts.length).filterMap fun i => do
      return (← parts[i]?, ← groups[i]?.join) := by
  induction parts generalizing groups with
  | nil => rfl
  | cons part parts ih =>
      cases groups with
      | nil => simp [groupPieces]
      | cons span? groups =>
          rw [List.length_cons, List.range_succ_eq_map, List.filterMap_cons, List.filterMap_map]
          have hrest := ih groups
          rw [groupPieces] at hrest
          cases span? with
          | none => simpa [groupPieces] using hrest
          | some span => simpa [groupPieces] using hrest

theorem exists_of_mem_groupPieces {parts : List (Part Handle)} {groups : List (Option Span)}
    {piece : Part Handle × Span} (h : piece ∈ groupPieces parts groups) :
    ∃ index : Nat, parts[index]? = some piece.1 ∧ groups[index]? = some (some piece.2) := by
  obtain ⟨⟨part, span?⟩, hzip, hpiece⟩ := List.mem_filterMap.mp h
  obtain ⟨span, rfl, rfl⟩ := Option.map_eq_some_iff.mp hpiece
  obtain ⟨index, hget⟩ := List.mem_iff_getElem?.mp hzip
  exact ⟨index, List.getElem?_zip_eq_some.mp hget⟩

namespace Faces

variable {state : State} {rule : Rule} {found : Match} {won : Option (Rule × Match)}

-- A scan faces one state, in which one rule wins or none.
theorem unique {state' : State} {won' : Option (Rule × Match)} (h : scan.Faces set state won)
    (h' : scan.Faces set state' won') : state = state' ∧ won = won' := by
  obtain ⟨table, htable, hstate⟩ := h.table
  obtain ⟨place, hplace, rfl⟩ := h.place
  obtain ⟨table', htable', hstate'⟩ := h'.table
  obtain ⟨place', hplace', rfl⟩ := h'.place
  obtain rfl := Option.some.inj (htable.symm.trans htable')
  obtain rfl := Option.some.inj (hstate.symm.trans hstate')
  obtain rfl := Option.some.inj (hplace.symm.trans hplace')
  exact ⟨rfl, rfl⟩

-- The winner is a rule of the state, and its match begins at the cursor.
theorem winner (h : scan.Faces set state (some (rule, found))) :
    rule ∈ state.rules ∧ ∃ place, scan.input.place? scan.cursor = some place ∧
      rule.pattern.matchAt place = some found := by
  obtain ⟨place, hplace, hwon⟩ := h.place
  obtain ⟨rule', hmem, hfound⟩ := List.exists_of_findSome?_eq_some hwon
  obtain ⟨found', hmatch, heq⟩ := Option.map_eq_some_iff.mp hfound
  obtain ⟨rfl, rfl⟩ := Prod.mk.inj heq
  exact ⟨hmem, place, hplace, hmatch⟩

theorem matchText_eq (h : scan.Faces set state (some (rule, found))) :
    rule.pattern.matchText scan.input scan.cursor = some found := by
  obtain ⟨-, place, hplace, hmatch⟩ := h.winner
  rw [Pattern.matchText, hplace, Option.bind_some, hmatch]

theorem match_span (hscan : scan.Sound set) (h : scan.Faces set state (some (rule, found))) :
    found.span.start = scan.cursor ∧ scan.cursor ≤ found.span.stop ∧
      scan.input.isBoundary found.span.stop = true := by
  obtain ⟨-, place, hplace, hmatch⟩ := h.winner
  obtain ⟨read, hinput, hcursor⟩ := hscan.rest_eq
  obtain ⟨own, hown, hoffset, hafter⟩ := hscan.place
  obtain rfl := Option.some.inj (hown.symm.trans hplace)
  obtain ⟨hstart, taken, rest, htaken, hstop⟩ := Pattern.matchAt_span hmatch
  refine ⟨hstart.trans hoffset, by omega, Text.isBoundary_iff.mpr ⟨read ++ taken, rest, ?_, ?_⟩⟩
  · rw [hinput, ← hafter, htaken, List.append_assoc]
  · rw [hstop, Text.size_append, hcursor, hoffset]

-- The rule was compiled for the table of the scan.
theorem rule_mem (h : scan.Faces set state (some (rule, found))) :
    ∃ table, set.table? scan.table = some table ∧ state ∈ table.states ∧ rule ∈ state.rules := by
  obtain ⟨table, htable, hstate⟩ := h.table
  exact ⟨table, htable, List.mem_of_getElem? hstate, h.winner.1⟩

theorem cut_tiles (hscan : scan.Sound set) (h : scan.Faces set state (some (rule, found)))
    (hspan : scan.cursor < found.span.stop) :
    Segment.Tiles scan.input scan.cursor (scan.cut state rule found) found.span.stop := by
  obtain ⟨hstart, hle, hstop⟩ := h.match_span hscan
  have hpartition := fun pieces : List (Part Handle × Span) =>
    Segment.partition_tiles (hstart ▸ hle) hstop pieces
  rw [hstart] at hpartition
  unfold cut
  split
  · exact ⟨hstart, hspan, hstop, rfl⟩
  · exact ⟨hstart, hspan, hstop, rfl⟩
  · exact hpartition _
  · exact hpartition _

-- What is delegated was declared by the rule.
theorem cut_declared (h : scan.Faces set state (some (rule, found))) {handle : Handle}
    {span : Span} (hmem : .claimed (.delegate handle) span ∈ scan.cut state rule found) :
    set.Declares scan.table handle := by
  obtain ⟨table, htable, hstate, hrule⟩ := h.rule_mem
  refine ⟨table, htable, state, hstate, rule, hrule, ?_⟩
  unfold cut at hmem
  split at hmem
  case h_1 => simp at hmem
  case h_2 own haction =>
    rw [haction]
    simp_all [Action.delegations]
  case h_3 parts haction =>
    rw [haction]
    obtain ⟨claim, hclaim, -⟩ := Segment.mem_partitionFrom hmem
    obtain ⟨index, hpart, -⟩ := exists_of_mem_groupPieces hclaim
    exact List.mem_filterMap.mpr ⟨_, List.mem_of_getElem? hpart, rfl⟩
  case h_4 call haction =>
    obtain ⟨claim, hclaim, -⟩ := Segment.mem_partitionFrom hmem
    obtain ⟨⟨kind, own⟩, -, heq⟩ := List.mem_map.mp hclaim
    cases heq

end Faces

-- What a step does where a rule has won: it takes the match, or stays, or skips a character.
theorem Steps.of_winner {next : Scan} {pieces : List Piece} {events : List Event}
    (h : Steps set scan next pieces events) {state : State} {rule : Rule} {found : Match}
    (hfaces : scan.Faces set state (some (rule, found))) :
    (scan.cursor < found.span.stop ∧ next = scan.follow rule found) ∨
    (found.span.stop = scan.cursor ∧ next = scan.follow rule found ∧ pieces = []) ∨
    (found.span.stop = scan.cursor ∧ set.options.maxEmptySteps ≤ scan.emptySteps ∧
      ∃ c, next = (scan.follow rule found).skip c ∧ pieces = errorTokens scan.offset [c]) := by
  cases h with
  | fail hfaces' =>
      have hnone := (hfaces.unique hfaces').2
      contradiction
  | take hfaces' hspan =>
      obtain ⟨rfl, rfl⟩ := Prod.mk.inj (Option.some.inj (hfaces.unique hfaces').2)
      exact .inl ⟨hspan, rfl⟩
  | stay hfaces' hspan =>
      obtain ⟨rfl, rfl⟩ := Prod.mk.inj (Option.some.inj (hfaces.unique hfaces').2)
      exact .inr (.inl ⟨hspan, rfl, rfl⟩)
  | force hfaces' hspan hlimit =>
      obtain ⟨rfl, rfl⟩ := Prod.mk.inj (Option.some.inj (hfaces.unique hfaces').2)
      exact .inr (.inr ⟨hspan, hlimit, _, rfl, rfl⟩)

section Runs

variable {m : Type → Type} [Monad m] {host : Host m} (R : Reading set host)

theorem slice_ok {span : Span} {part : Text} (h : scan.input.slice? span = some part) :
    R.Ok (scan.slice span) part [] :=
  R.ok_orFault _ h

theorem errors_ok {span : Span} {part : Text} (h : scan.input.slice? span = some part) :
    R.Ok (scan.errors span) (scan.errorPieces span) [] := by
  unfold errorPieces
  rw [h]
  exact R.ok_seq (slice_ok R h) (R.ok_pure _)

theorem delegate_ok (hset : set.Sound) (hscan : scan.Sound set) {handle : Handle}
    (hdeclared : set.Declares scan.table handle) {span : Span} {part : Text}
    (h : scan.input.slice? span = some part) :
    R.Ok (scan.delegate set host handle span) (scan.delegated set handle span) [] := by
  unfold delegate delegated
  by_cases hdepth : set.options.maxDelegationDepth ≤ scan.depth
  · rw [if_pos hdepth, if_pos hdepth]
    exact errors_ok R h
  · rw [if_neg hdepth, if_neg hdepth]
    refine R.ok_seq (R.ok_lift (R.resolve scan.table handle hdeclared)) ?_
    cases hlookup : set.lookup? scan.table handle.delegation with
    | none => exact errors_ok R h
    | some target =>
        obtain ⟨current, hcurrent, -⟩ := hscan.stack
        obtain ⟨table, htable, -⟩ :=
          hset.lookup? (List.getElem?_eq_some_iff.mp hcurrent).1 hlookup
        simp only [h, htable, Option.getD_some, Option.map_some, Option.toList_some]
        exact R.ok_seq (R.ok_orFault _ rfl) (R.ok_seq (slice_ok R h) (R.ok_pure _))

theorem segment_ok (hset : set.Sound) (hscan : scan.Sound set) {segment : Segment (Part Handle)}
    (hdeclared : ∀ handle span, segment = .claimed (.delegate handle) span →
      set.Declares scan.table handle) {part : Text}
    (h : scan.input.slice? segment.span = some part) :
    R.Ok (scan.segment set host segment) (scan.piecesOf set segment) [] := by
  cases segment with
  | claimed claim span =>
      cases claim with
      | kind kind =>
          change R.Ok _ [Piece.token ⟨kind, scan.base + span.start,
            (scan.input.slice? span).getD []⟩] []
          rw [show scan.input.slice? span = some part from h]
          exact R.ok_seq (R.ok_seq (slice_ok R h) (R.ok_pure _)) (R.ok_pure _)
      | delegate handle => exact delegate_ok R hset hscan (hdeclared handle span rfl) h
  | unclaimed span => exact errors_ok R h

theorem segments_ok (hset : set.Sound) (hscan : scan.Sound set)
    {segments : List (Segment (Part Handle))}
    (hdeclared : ∀ handle span, .claimed (.delegate handle) span ∈ segments →
      set.Declares scan.table handle)
    {start stop : Nat} (hstart : scan.input.isBoundary start = true)
    (htiles : Segment.Tiles scan.input start segments stop) :
    R.Ok (scan.segments set host segments) (segments.flatMap (scan.piecesOf set)) [] := by
  induction segments generalizing start with
  | nil => exact R.ok_pure _
  | cons segment segments ih =>
      obtain ⟨hspan, hlt, hboundary, hrest⟩ := htiles
      obtain ⟨part, hslice⟩ :=
        Text.slice?_isSome (hspan ▸ hstart) (by omega) hboundary
      refine R.ok_seq (segment_ok R hset hscan ?_ hslice) (R.ok_seq (ih ?_ hboundary hrest) ?_)
      · exact fun handle span hmem => hdeclared handle span (by simp_all)
      · exact fun handle span hmem => hdeclared handle span (by simp [hmem])
      · exact R.ok_pure _

-- What a match of some text becomes.
theorem act_ok (hset : set.Sound) (hscan : scan.Sound set) {state : State} {rule : Rule}
    {found : Match} (hfaces : scan.Faces set state (some (rule, found)))
    (hspan : scan.cursor < found.span.stop) :
    R.Ok (scan.act set host state rule found)
      ((scan.cut state rule found).flatMap (scan.piecesOf set))
      (scan.calls state rule found) := by
  obtain ⟨hstart, -, hstop⟩ := hfaces.match_span hscan
  have hempty : found.span.isEmpty = false := decide_eq_false (by omega)
  obtain ⟨part, hslice⟩ := Text.slice?_isSome (hstart ▸ hscan.cursor) (by omega) hstop
  have hsegments := segments_ok R hset hscan
    (fun handle span hmem => hfaces.cut_declared hmem) hscan.cursor (hfaces.cut_tiles hscan hspan)
  unfold act
  rw [if_neg (by simp [hempty])]
  cases haction : rule.action with
  | token kind =>
      simp only [cut, calls, haction] at hsegments ⊢
      rw [List.flatMap_singleton]
      exact (segment_ok R hset hscan (by simp) hslice :
        R.Ok (scan.segment set host (.claimed (.kind kind) found.span)) _ _)
  | delegate handle =>
      simp only [cut, calls, haction] at hsegments ⊢
      rw [List.flatMap_singleton]
      have hmem : Segment.claimed (.delegate handle) found.span ∈ scan.cut state rule found := by
        simp [cut, haction]
      exact delegate_ok R hset hscan (hfaces.cut_declared hmem) hslice
  | groups parts =>
      simp only [cut, calls, haction] at hsegments ⊢
      exact hsegments
  | callback call =>
      simp only [cut, calls, haction] at hsegments ⊢
      exact R.ok_bind (R.ok_lift (R.record _)) hsegments

theorem skipChar_ok {place : Place} (hplace : scan.input.place? scan.cursor = some place)
    {c : Char} {rest : Text} (hafter : place.after = c :: rest) :
    R.Ok (skipChar { scan with emptySteps := 0 }) (scan.skip c, errorTokens scan.offset [c])
      [] := by
  refine R.ok_seq (R.ok_orFault _ hplace) ?_
  simp only [hafter]
  exact R.ok_pure _

-- A match that leaves the scan within the limit.
theorem respond_within {state : State} {rule : Rule} {found : Match} {pieces : List Piece}
    {events : List Event}
    (hlimit : (scan.follow rule found).emptySteps ≤ set.options.maxEmptySteps)
    (hact : R.Ok (scan.act set host state rule found) pieces events) :
    R.Ok (scan.respond set host state (some (rule, found))) (scan.follow rule found, pieces)
      events := by
  rw [← List.append_nil events]
  refine R.ok_bind hact ?_
  rw [if_neg (Nat.not_lt.mpr hlimit)]
  exact R.ok_pure _

-- A match of no text too many.
theorem respond_over {state : State} {rule : Rule} {found : Match}
    (hlimit : set.options.maxEmptySteps < (scan.follow rule found).emptySteps)
    (hact : R.Ok (scan.act set host state rule found) [] []) {place : Place}
    (hplace : scan.input.place? found.span.stop = some place) {c : Char} {rest : Text}
    (hafter : place.after = c :: rest) :
    R.Ok (scan.respond set host state (some (rule, found)))
      ((scan.follow rule found).skip c, errorTokens (scan.base + found.span.stop) [c]) [] := by
  refine R.ok_seq hact ?_
  rw [if_pos hlimit]
  have hskip : R.Ok (skipChar { scan.follow rule found with emptySteps := 0 })
      ((scan.follow rule found).skip c, errorTokens (scan.base + found.span.stop) [c]) [] :=
    skipChar_ok R hplace hafter
  exact R.ok_seq hskip (R.ok_pure _)

end Runs

theorem exists_faces (hscan : scan.Sound set) : ∃ state won, scan.Faces set state won := by
  obtain ⟨table, htable, -, hwithin⟩ := hscan.stack
  obtain ⟨state, hstate⟩ : ∃ state, table.state? scan.stack.top = some state :=
    ⟨_, List.getElem?_eq_getElem (StateStack.top_lt hwithin)⟩
  obtain ⟨place, hplace, -, -⟩ := hscan.place
  exact ⟨state, winner? state.rules place, ⟨table, htable, hstate⟩, place, hplace, rfl⟩

theorem exists_steps (hscan : scan.Sound set) (hdone : scan.isDone = false) :
    ∃ next pieces events, Steps set scan next pieces events := by
  obtain ⟨c, rest, hrest⟩ : ∃ c rest, scan.rest = c :: rest := by
    refine List.exists_cons_of_ne_nil fun hnil => ?_
    simp [hscan.isDone_iff.mpr hnil] at hdone
  obtain ⟨state, won, hfaces⟩ := exists_faces hscan
  cases won with
  | none => exact ⟨_, _, _, .fail hfaces hrest⟩
  | some won =>
      obtain ⟨rule, found⟩ := won
      obtain ⟨-, hle, -⟩ := hfaces.match_span hscan
      rcases Nat.lt_or_eq_of_le hle with hspan | hspan
      · exact ⟨_, _, _, .take hfaces hspan⟩
      · rcases Nat.lt_or_ge scan.emptySteps set.options.maxEmptySteps with hlimit | hlimit
        · exact ⟨_, _, _, .stay hfaces hspan.symm hlimit⟩
        · exact ⟨_, _, _, .force hfaces hspan.symm hlimit hrest⟩

section Runs

variable {m : Type → Type} [Monad m] {host : Host m} (R : Reading set host)

-- A match of no text becomes nothing, and is counted.
theorem act_empty_ok (hscan : scan.Sound set) {state : State} {rule : Rule} {found : Match}
    (hfaces : scan.Faces set state (some (rule, found))) (hspan : found.span.stop = scan.cursor) :
    R.Ok (scan.act set host state rule found) [] [] ∧
      (scan.follow rule found).emptySteps = scan.emptySteps + 1 := by
  obtain ⟨hstart, -, -⟩ := hfaces.match_span hscan
  have hempty : found.span.isEmpty = true := decide_eq_true (by omega)
  constructor
  · rw [act, if_pos hempty]
    exact R.ok_pure _
  · simp [follow, hempty]

-- A step looks up what the scan faces, records it, and responds.
theorem step_of_respond {state : State} {won : Option (Rule × Match)}
    (hfaces : scan.Faces set state won) {out : Scan × List Piece} {events : List Event}
    (hrespond : R.Ok (scan.respond set host state won) out events) :
    R.Ok (scan.step set host) out (.step scan (won.map (·.1)) :: events) := by
  obtain ⟨table, htable, hstate⟩ := hfaces.table
  obtain ⟨place, hplace, rfl⟩ := hfaces.place
  refine R.ok_seq (R.ok_orFault _ htable) (R.ok_seq (R.ok_orFault _ hstate)
    (R.ok_seq (R.ok_orFault _ hplace) ?_))
  exact R.ok_bind (R.ok_lift (R.record _)) hrespond

-- What a step can do is what it does.
theorem Steps.ok (hset : set.Sound) (hscan : scan.Sound set) {next : Scan} {pieces : List Piece}
    {events : List Event} (h : Steps set scan next pieces events) :
    R.Ok (scan.step set host) (next, pieces) events := by
  obtain ⟨place, hplace, -, hafter⟩ := hscan.place
  cases h with
  | fail hfaces hrest =>
      rw [hrest] at hafter
      exact step_of_respond R hfaces (skipChar_ok R hplace hafter)
  | @take state rule found hfaces hspan =>
      obtain ⟨hstart, -, -⟩ := hfaces.match_span hscan
      have hempty : found.span.isEmpty = false := decide_eq_false (by omega)
      have hlimit : (scan.follow rule found).emptySteps ≤ set.options.maxEmptySteps := by
        simp [follow, hempty]
      exact step_of_respond R hfaces
        (respond_within R hlimit (act_ok R hset hscan hfaces hspan))
  | stay hfaces hspan hlimit =>
      obtain ⟨hact, hcount⟩ := act_empty_ok R hscan hfaces hspan
      exact step_of_respond R hfaces (respond_within R (by omega) hact)
  | force hfaces hspan hlimit hrest =>
      obtain ⟨hact, hcount⟩ := act_empty_ok R hscan hfaces hspan
      rw [hrest] at hafter
      rw [offset, ← hspan]
      exact step_of_respond R hfaces
        (respond_over R (by omega) hact (hspan ▸ hplace) hafter)

end Runs

-- What a step makes of a match of some text is what the segments of the match become.
theorem Faces.step_cut (hset : set.Sound) (hscan : scan.Sound set) {state : State} {rule : Rule}
    {found : Match} (hfaces : scan.Faces set state (some (rule, found)))
    (hspan : scan.cursor < found.span.stop) :
    (scan.segments set set.plainHost (scan.cut state rule found)).run =
        .ok ((scan.cut state rule found).flatMap (scan.piecesOf set)) ∧
      (scan.step set set.plainHost).run = .ok (scan.follow rule found,
        (scan.cut state rule found).flatMap (scan.piecesOf set)) := by
  have hsegments := segments_ok set.plainReading hset hscan
    (fun handle span hmem => hfaces.cut_declared hmem) hscan.cursor (hfaces.cut_tiles hscan hspan)
  exact ⟨hsegments, (Steps.take hfaces hspan).ok set.plainReading hset hscan⟩

-- A step of a sound scan is one of these, for every host.
theorem step_ok (hset : set.Sound) (hscan : scan.Sound set) (hdone : scan.isDone = false) :
    ∃ next pieces events, Steps set scan next pieces events ∧
      ∀ {m : Type → Type} [Monad m] {host : Host m} (R : Reading set host),
        R.Ok (scan.step set host) (next, pieces) events := by
  obtain ⟨next, pieces, events, hsteps⟩ := exists_steps hscan hdone
  exact ⟨next, pieces, events, hsteps, fun R => hsteps.ok R hset hscan⟩

end StackLexer.Scan
