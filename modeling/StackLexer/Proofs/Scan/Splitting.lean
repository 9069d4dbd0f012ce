import StackLexer.Proofs.Regex.Groups
import StackLexer.Proofs.Scan.Calls
import StackLexer.Proofs.Scan.Memory
import StackLexer.Proofs.Scan.Sample
import StackLexer.Proofs.Scan.Segments

namespace StackLexer

namespace Segment

variable {α : Type} {text : Text} {cursor stop : Nat}

-- The pieces that are not empty.
def solid (pieces : List (α × Span)) : List (α × Span) :=
  pieces.filter fun piece => !piece.2.isEmpty

-- Each piece begins at or behind the end of every piece before it.
def InOrder (pieces : List (α × Span)) : Prop :=
  pieces.Pairwise fun piece next => piece.2.stop ≤ next.2.start

instance (pieces : List (α × Span)) : Decidable (InOrder pieces) :=
  inferInstanceAs (Decidable (pieces.Pairwise _))

theorem solid_cons_empty (value : α) {span : Span} (hempty : span.isEmpty = true)
    (pieces : List (α × Span)) : solid ((value, span) :: pieces) = solid pieces :=
  List.filter_cons_of_neg (by simp [hempty])

theorem solid_cons (value : α) {span : Span} (hsolid : span.isEmpty = false)
    (pieces : List (α × Span)) : solid ((value, span) :: pieces) = (value, span) :: solid pieces :=
  List.filter_cons_of_pos (by simp [hsolid])

theorem mem_solid {pieces : List (α × Span)} {piece : α × Span} :
    piece ∈ solid pieces ↔ piece ∈ pieces ∧ piece.2.start < piece.2.stop := by
  simp [solid, Span.isEmpty]

-- A piece that begins at the cursor or behind it, with nothing before it that reaches into it.
theorem partitionFrom_fitting {value : α} {own : Span} {before after : List (α × Span)}
    (hown : text.Inside ⟨cursor, stop⟩ own) (hlt : own.start < own.stop)
    (hbefore : ∀ piece ∈ before, piece.2.stop ≤ own.start) :
    ∃ first, partitionFrom text stop cursor (before ++ (value, own) :: after) =
        first ++ .claimed value own :: partitionFrom text stop own.stop after ∧
      Keeps before (claims first) := by
  induction before generalizing cursor with
  | nil =>
      refine ⟨gap cursor own.start, ?_, ?_⟩
      · rw [List.nil_append, partitionFrom, Nat.max_eq_left hown.start, Nat.min_eq_left hown.stop,
          if_pos ⟨hlt, hown.boundaries⟩]
      · rw [claims_gap]
        exact .nil
  | cons piece before ih =>
      obtain ⟨other, span⟩ := piece
      obtain ⟨hspan, hbefore⟩ := List.forall_mem_cons.mp hbefore
      rw [List.cons_append, partitionFrom]
      split
      · -- the cursor moves to the end of a piece that ends before this one begins
        have hcursor : min span.stop stop ≤ own.start := Nat.le_trans (Nat.min_le_left _ _) hspan
        obtain ⟨first, hfirst, hkeeps⟩ :=
          ih ⟨hcursor, hown.le, hown.stop, hown.boundaries⟩ hbefore
        refine ⟨gap cursor (max span.start cursor) ++ .claimed other
          ⟨max span.start cursor, min span.stop stop⟩ :: first, ?_, ?_⟩
        · rw [hfirst, List.append_assoc, List.cons_append]
        · rw [claims_cut]
          exact hkeeps.cons (within_cut other span cursor stop)
      · obtain ⟨first, hfirst, hkeeps⟩ := ih hown hbefore
        exact ⟨first, hfirst, hkeeps.skip _⟩

-- Claims are cut into themselves.
theorem partitionFrom_claims (cursor : Nat) (pieces : List (α × Span)) :
    partitionFrom text stop cursor (claims (partitionFrom text stop cursor pieces)) =
      partitionFrom text stop cursor pieces := by
  induction pieces generalizing cursor with
  | nil => rw [partitionFrom, claims_gap, partitionFrom]
  | cons piece pieces ih =>
      obtain ⟨value, span⟩ := piece
      simp only [partitionFrom]
      split
      case isTrue hkept =>
        have hfirst : max (max span.start cursor) cursor = max span.start cursor :=
          Nat.max_eq_left (Nat.le_max_right _ _)
        have hlast : min (min span.stop stop) stop = min span.stop stop :=
          Nat.min_eq_left (Nat.min_le_right _ _)
        rw [claims_cut, partitionFrom, hfirst, hlast, if_pos hkept, ih]
      case isFalse => exact ih cursor

-- Empty pieces leave no trace.
theorem partitionFrom_solid (cursor : Nat) (pieces : List (α × Span)) :
    partitionFrom text stop cursor (solid pieces) = partitionFrom text stop cursor pieces := by
  induction pieces generalizing cursor with
  | nil => rfl
  | cons piece pieces ih =>
      obtain ⟨value, span⟩ := piece
      cases hempty : span.isEmpty with
      | true =>
          have hle : span.stop ≤ span.start := of_decide_eq_true hempty
          rw [solid_cons_empty value hempty, partitionFrom, if_neg (by omega), ih]
      | false =>
          rw [solid_cons value hempty, partitionFrom, partitionFrom, ih, ih]

-- Pieces that come in order and do not overlap are all claimed as they stand.
theorem partitionFrom_inOrder {pieces : List (α × Span)}
    (hinside : ∀ piece ∈ pieces, text.Inside ⟨cursor, stop⟩ piece.2)
    (hsolid : ∀ piece ∈ pieces, piece.2.start < piece.2.stop) (horder : InOrder pieces) :
    claims (partitionFrom text stop cursor pieces) = pieces := by
  induction pieces generalizing cursor with
  | nil => exact claims_gap _ _
  | cons piece pieces ih =>
      obtain ⟨value, span⟩ := piece
      obtain ⟨hspan, hinside⟩ := List.forall_mem_cons.mp hinside
      obtain ⟨hlt, hsolid⟩ := List.forall_mem_cons.mp hsolid
      obtain ⟨hbehind, horder⟩ := List.pairwise_cons.mp horder
      have hrest : ∀ piece ∈ pieces, text.Inside ⟨span.stop, stop⟩ piece.2 := by
        intro piece hmem
        have hpiece := hinside piece hmem
        exact ⟨hbehind piece hmem, hpiece.le, hpiece.stop, hpiece.boundaries⟩
      rw [partitionFrom, Nat.max_eq_left hspan.start, Nat.min_eq_left hspan.stop,
        if_pos ⟨hlt, hspan.boundaries⟩, claims_cut, ih hrest hsolid horder]

theorem partition_inOrder {span : Span} {pieces : List (α × Span)}
    (hinside : ∀ piece ∈ pieces, text.Inside span piece.2) (horder : InOrder (solid pieces)) :
    claims (partition text span pieces) = solid pieces := by
  rw [partition, ← partitionFrom_solid]
  refine partitionFrom_inOrder (fun piece hmem => ?_) (fun piece hmem => ?_) horder
  · exact hinside piece (mem_solid.mp hmem).1
  · exact (mem_solid.mp hmem).2

end Segment

-- The parts whose groups took some text, with the spans of these. Part `i` is for group `i + 1`, as
-- the whole match is group 0.
def Match.takenParts (found : Match) (parts : List (Part Handle)) : List (Part Handle × Span) :=
  (List.range parts.length).filterMap fun i => do
    let part ← parts[i]?
    let span ← found.captures[i + 1]?.join
    if span.isEmpty then none else some (part, span)

namespace Scan

-- What a segment becomes. A delegated one becomes a scan that has not begun, at the state that the
-- delegation names, or errors if the scan lies too deep.
inductive Emits (set : TableSet) (scan : Scan) : Segment (Part Handle) → List Piece → Prop where
  | token {kind span text} (hslice : scan.input.slice? span = some text) :
      Emits set scan (.claimed (.kind kind) span) [.token ⟨kind, scan.base + span.start, text⟩]
  | nested {handle span text target table} (hslice : scan.input.slice? span = some text)
      (hdepth : scan.depth < set.options.maxDelegationDepth)
      (htarget : set.lookup? scan.table handle.delegation = some target)
      (htable : set.table? target.table = some table) :
      Emits set scan (.claimed (.delegate handle) span)
        [.nested (.fresh target.table table.root target.state? text (scan.base + span.start)
          (scan.depth + 1))]
  | tooDeep {handle span text} (hslice : scan.input.slice? span = some text)
      (hdepth : set.options.maxDelegationDepth ≤ scan.depth) :
      Emits set scan (.claimed (.delegate handle) span) (errorTokens (scan.base + span.start) text)
  | unclaimed {span text} (hslice : scan.input.slice? span = some text) :
      Emits set scan (.unclaimed span) (errorTokens (scan.base + span.start) text)

variable {set : TableSet} {scan : Scan} {state : State} {rule : Rule} {found : Match}
variable {parts : List (Part Handle)}

theorem solid_groupPieces (found : Match) (parts : List (Part Handle)) :
    Segment.solid (groupPieces parts found.groups) = found.takenParts parts := by
  rw [groupPieces_eq, Segment.solid, Match.takenParts, List.filter_filterMap]
  congr 1
  funext i
  rw [Match.captures, List.getElem?_cons_succ]
  cases parts[i]? with
  | none => rfl
  | some part =>
      cases found.groups[i]?.join with
      | none => rfl
      | some span => cases hempty : span.isEmpty <;> simp [hempty]

-- Groups that took some text, in order and apart from each other, are claimed as they stand.
theorem takenParts_claimed
    (hmatch : rule.pattern.matchText scan.input scan.cursor = some found)
    (horder : Segment.InOrder (found.takenParts parts)) :
    Segment.claims (Segment.partition scan.input found.span (groupPieces parts found.groups)) =
      found.takenParts parts := by
  rw [← solid_groupPieces] at horder ⊢
  refine Segment.partition_inOrder (fun piece hmem => ?_) horder
  obtain ⟨index, -, hgroup⟩ := exists_of_mem_groupPieces hmem
  exact Pattern.matchText_groups hmatch piece.2 (List.mem_of_getElem? hgroup)

-- All delegations of a set have a target, so each segment of a match is emitted as what it is.
theorem Faces.cut_emits {grammars : List Grammar} (hbuilt : TableSet.BuiltAs grammars set)
    (hgrammars : TableSet.WellFormed grammars) (hscan : scan.Sound set)
    (hfaces : scan.Faces set state (some (rule, found))) (hspan : scan.cursor < found.span.stop)
    {segment : Segment (Part Handle)} (hmem : segment ∈ scan.cut state rule found) :
    scan.Emits set segment (scan.piecesOf set segment) := by
  obtain ⟨text, hslice⟩ :=
    ((hfaces.cut_tiles hscan hspan).inside hscan.cursor segment hmem).slice?
  cases segment with
  | unclaimed span =>
      obtain hslice : scan.input.slice? span = some text := hslice
      rw [piecesOf, errorPieces, hslice]
      exact .unclaimed hslice
  | claimed part span =>
      obtain hslice : scan.input.slice? span = some text := hslice
      cases part with
      | kind kind =>
          rw [piecesOf, hslice]
          exact .token hslice
      | delegate handle =>
          rw [piecesOf, delegated, errorPieces, hslice]
          split
          case isTrue hdepth => exact .tooDeep hslice hdepth
          case isFalse hdepth =>
            obtain ⟨grammar, hgrammar, hdelegation⟩ :=
              hbuilt.hasDelegation (hfaces.cut_declared hmem)
            obtain ⟨target, htarget⟩ := Option.isSome_iff_exists.mp
              (hbuilt.lookup?_isSome hgrammars hgrammar hdelegation)
            obtain ⟨current, hcurrent, -⟩ := hscan.stack
            obtain ⟨table, htable, -⟩ :=
              hbuilt.sound.lookup? (List.getElem?_eq_some_iff.mp hcurrent).1 htarget
            rw [htarget]
            simp only [htable, Option.map_some, Option.toList_some]
            exact .nested hslice (Nat.lt_of_not_le hdepth) htarget htable

end Scan

-- Whatever the other pieces are, a piece that fits is claimed with its own span, for its own place
-- among them. What is claimed is cut into itself. And in a run, a match whose groups come in order
-- is split into those of them that took some text: a segment is claimed for each of them, with its
-- span, and the step emits for every segment what it becomes.
theorem fitting_pieces_kept :
    (∀ {α : Type} (text : Text) (span : Span) (pieces : List (α × Span)),
      (∀ before value own after, pieces = before ++ (value, own) :: after →
        text.Inside span own → own.start < own.stop →
        (∀ piece ∈ before, piece.2.stop ≤ own.start) →
          ∃ first rest,
            Segment.partition text span pieces = first ++ .claimed value own :: rest ∧
            Segment.Keeps before (Segment.claims first) ∧
            Segment.Keeps after (Segment.claims rest)) ∧
      Segment.partition text span (Segment.claims (Segment.partition text span pieces)) =
        Segment.partition text span pieces) ∧
    (∀ grammars options set, TableSet.build grammars options = .ok set →
      ∀ lexer table, set.table? lexer = some table →
        ∀ state? : Option StateId, (∀ state ∈ state?, state < table.states.length) →
          ∀ text base depth count, ∃ answers final log,
            (Stream.calls set set.tracer count
              (.ofScan (.fresh lexer table.root state? text base depth))).run.run [] =
                (.ok (answers, final), log) ∧
            ∀ scan rule, .step scan (some rule) ∈ log →
              ∀ parts found, rule.action = .groups parts →
                rule.pattern.matchText scan.input scan.cursor = some found →
                scan.cursor < found.span.stop →
                Segment.InOrder (found.takenParts parts) →
                  ∃ segments next pieces,
                    Segment.partition scan.input found.span
                      (Scan.groupPieces parts found.groups) = segments ∧
                    Segment.claims segments = found.takenParts parts ∧
                    List.Forall₂ (scan.Emits set) segments pieces ∧
                    (scan.segments set set.plainHost segments).run = .ok pieces.flatten ∧
                    (scan.step set set.plainHost).run = .ok (next, pieces.flatten)) := by
  constructor
  · intro α text span pieces
    refine ⟨?_, Segment.partitionFrom_claims _ _⟩
    rintro before value own after rfl hown hlt hbefore
    obtain ⟨first, hpartition, hfirst⟩ := Segment.partitionFrom_fitting hown hlt hbefore
    exact ⟨first, _, hpartition, hfirst, Segment.partitionFrom_keeps _ _ _ _⟩
  · intro grammars options set hbuild lexer table htable state? hstate text base depth count
    obtain ⟨hbuilt, hgrammars⟩ := (TableSet.build_settles grammars options).of_ok hbuild
    have hset := hbuilt.sound
    have hstart := Stream.ofScan_sound (Scan.fresh_sound hset htable hstate text base depth) rfl
    obtain ⟨answers, final, events, -, hcalls, hrun⟩ := Stream.calls_ok hset hstart count
    refine ⟨answers, final, [] ++ events, hrun set.tracerReading [], ?_⟩
    intro scan rule hmem parts found haction hmatch hspan horder
    obtain ⟨hscan, -, state, found', hfaces⟩ := (hcalls.taken hset hstart _ hmem).winner
    obtain rfl := Option.some.inj (hfaces.matchText_eq.symm.trans hmatch)
    have hemits : List.Forall₂ (scan.Emits set) (scan.cut state rule found')
        ((scan.cut state rule found').map (scan.piecesOf set)) :=
      List.forall₂_map_right_iff.mpr (List.forall₂_same.mpr fun segment hmem =>
        hfaces.cut_emits hbuilt hgrammars hscan hspan hmem)
    obtain ⟨hsegments, hstep⟩ := hfaces.step_cut hset hscan hspan
    rw [List.flatMap_def] at hsegments hstep
    rw [Scan.cut, haction] at hemits hsegments hstep
    exact ⟨_, _, _, rfl, Scan.takenParts_claimed hmatch horder, hemits, hsegments, hstep⟩

-- A name, a sign and a number, of which the number may be missing.
def Grammar.settings : Grammar :=
  (Grammar.new "settings").setState "root"
    [.rule ⟨"([a-z]+)(=)([0-9]*)", .groups [.kind .name, .kind .operator, .kind .number], ⟨[]⟩⟩]

-- The winner of the step splits its match into groups that come in order.
def Event.isSplit : Event → Bool
  | .step scan (some rule) =>
      match rule.action, rule.pattern.matchText scan.input scan.cursor with
      | .groups parts, some found => decide (scan.cursor < found.span.stop ∧
          Segment.InOrder (found.takenParts parts))
      | _, _ => false
  | _ => false

theorem Event.exists_of_isSplit {event : Event} (h : event.isSplit = true) :
    ∃ scan rule parts found, event = .step scan (some rule) ∧ rule.action = .groups parts ∧
      rule.pattern.matchText scan.input scan.cursor = some found ∧
      scan.cursor < found.span.stop ∧ Segment.InOrder (found.takenParts parts) := by
  unfold isSplit at h
  split at h
  case h_2 => contradiction
  case h_1 scan rule =>
    split at h
    case h_2 => contradiction
    case h_1 parts found haction hmatch =>
      obtain ⟨hspan, horder⟩ := of_decide_eq_true h
      exact ⟨scan, rule, parts, found, rfl, haction, hmatch, hspan, horder⟩

-- A run in which one match has all its groups, and another one lacks the number.
theorem Grammar.settings_splits :
    ∃ set table, TableSet.build [settings] .sample = .ok set ∧ set.table? 0 = some table ∧
      ((Stream.calls set set.tracer 7
        (.ofScan (.fresh 0 table.root none "a=12 b=".toList 0 0))).run.run []).2.countP
          Event.isSplit = 2 := by
  have hsplits : ((TableSet.build [settings] .sample).toOption.any fun set =>
      (set.table? 0).any fun table => ((Stream.calls set set.tracer 7
        (.ofScan (.fresh 0 table.root none "a=12 b=".toList 0 0))).run.run []).2.countP
          Event.isSplit == 2) = true := by
    decide +kernel
  obtain ⟨set, hbuild, hsplits⟩ := exists_ok_of_any hsplits
  obtain ⟨table, htable, hsplits⟩ := (Option.any_eq_true _ _).mp hsplits
  exact ⟨set, table, hbuild, htable, of_decide_eq_true hsplits⟩

theorem settings_pieces_kept :
    (∃ first rest, Segment.partition "aéb".toList ⟨0, 4⟩
          ([('x', ⟨3, 1⟩), ('y', ⟨0, 1⟩)] ++ ('z', ⟨1, 3⟩) :: [('w', ⟨2, 9⟩)]) =
        first ++ .claimed 'z' ⟨1, 3⟩ :: rest ∧
      Segment.Keeps [('x', ⟨3, 1⟩), ('y', ⟨0, 1⟩)] (Segment.claims first) ∧
      Segment.Keeps [('w', ⟨2, 9⟩)] (Segment.claims rest)) ∧
    ∃ (set : TableSet) (scan : Scan) (rule : Rule) (parts : List (Part Handle)) (found : Match),
      TableSet.build [.settings] .sample = .ok set ∧ rule.action = .groups parts ∧
      rule.pattern.matchText scan.input scan.cursor = some found ∧
      ∃ segments next pieces,
        Segment.partition scan.input found.span (Scan.groupPieces parts found.groups) =
          segments ∧
        Segment.claims segments = found.takenParts parts ∧
        List.Forall₂ (scan.Emits set) segments pieces ∧
        (scan.segments set set.plainHost segments).run = .ok pieces.flatten ∧
        (scan.step set set.plainHost).run = .ok (next, pieces.flatten) := by
  constructor
  · obtain ⟨hkept, -⟩ := fitting_pieces_kept.1 "aéb".toList ⟨0, 4⟩
      ([('x', ⟨3, 1⟩), ('y', ⟨0, 1⟩)] ++ ('z', ⟨1, 3⟩) :: [('w', ⟨2, 9⟩)])
    exact hkept _ _ _ _ rfl ⟨by decide, by decide, by decide, by decide⟩ (by decide) (by decide)
  · obtain ⟨set, table, hbuild, htable, hcount⟩ := Grammar.settings_splits
    obtain ⟨answers, final, log, hrun, hkept⟩ := fitting_pieces_kept.2 _ _ set hbuild 0 table htable
      none (by simp) "a=12 b=".toList 0 0 7
    rw [hrun] at hcount
    obtain ⟨event, hmem, hsplit⟩ := List.countP_pos_iff.mp (hcount ▸ Nat.zero_lt_two)
    obtain ⟨scan, rule, parts, found, rfl, haction, hmatch, hspan, horder⟩ :=
      Event.exists_of_isSplit hsplit
    exact ⟨set, scan, rule, parts, found, hbuild, haction, hmatch,
      hkept scan rule hmem parts found haction hmatch hspan horder⟩

end StackLexer
