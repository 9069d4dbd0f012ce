import StackLexer.Proofs.Scan.Calls
import StackLexer.Proofs.Scan.Memory
import StackLexer.Proofs.Scan.Sample

namespace StackLexer

-- The parts of a group action are as many as the pattern has groups, or fewer.
theorem Grammar.TableAs.groups_le {grammar : Grammar} {id : TableId} {table : Table}
    (h : grammar.TableAs id table) {state : State} (hstate : state ∈ table.states) {rule : Rule}
    (hrule : rule ∈ state.rules) {parts : List (Part Handle)}
    (haction : rule.action = .groups parts) :
    parts.length ≤ rule.pattern.groupCount := by
  obtain ⟨place, decl, -, hcompiled⟩ := h.rules state hstate rule hrule
  have hdecl := hcompiled.action
  rw [haction] at hdecl
  cases hown : decl.action with
  | token kind => simp [hown, Action.mapDelegations] at hdecl
  | delegate delegation => simp [hown, Action.mapDelegations] at hdecl
  | callback call => simp [hown, Action.mapDelegations] at hdecl
  | groups own =>
      have hgroups := hcompiled.groups own hown
      rw [hown] at hdecl
      obtain rfl := Action.groups.inj hdecl
      rw [List.length_mapIdx]
      exact hgroups

theorem Pattern.matchAt_captures {pattern : Pattern} {place : Place} {found : Match}
    (h : pattern.matchAt place = some found) : found.captures.length = pattern.groupCount + 1 := by
  obtain ⟨hit, -, rfl⟩ := Option.map_eq_some_iff.mp h
  simp [Match.captures]

namespace Scan

variable {set : TableSet} {scan next : Scan} {pieces : List Piece} {events : List Event}

-- Every frame is a state of the scan's own table, the lowest one its root, and the cursor is a
-- boundary of the scan's own text.
structure InRange (set : TableSet) (scan : Scan) : Prop where
  frames : ∃ table, set.table? scan.table = some table ∧
    scan.stack.frames.head? = some table.root ∧
    ∀ state ∈ scan.stack.frames, state < table.states.length
  cursor : scan.cursor ≤ scan.input.size
  boundary : scan.input.isBoundary scan.cursor = true

theorem Sound.inRange (h : scan.Sound set) : scan.InRange set := by
  obtain ⟨table, htable, hroot, hwithin⟩ := h.stack
  obtain ⟨read, hinput, hcursor⟩ := h.rest_eq
  refine ⟨⟨table, htable, ?_, hwithin⟩, ?_, h.cursor⟩
  · rw [← hroot]
    rfl
  · have hsize := congrArg Text.size hinput
    rw [Text.size_append, hcursor] at hsize
    omega

-- The lowest frame stays.
theorem Steps.frames_head (hset : set.Sound) (hscan : scan.Sound set)
    (h : Steps set scan next pieces events) :
    next.stack.frames.head? = scan.stack.frames.head? := by
  obtain ⟨read, hpasses, -, -⟩ := h.passes hset hscan
  obtain ⟨table, htable, hroot, -⟩ := hscan.inRange.frames
  obtain ⟨table', htable', hroot', -⟩ := (h.sound hset hscan).inRange.frames
  rw [hpasses.table] at htable'
  obtain rfl := Option.some.inj (htable.symm.trans htable')
  rw [hroot, hroot']

theorem Faces.capture {grammars : List Grammar} (hbuilt : TableSet.BuiltAs grammars set)
    {state : State} {rule : Rule} {found : Match}
    (hfaces : scan.Faces set state (some (rule, found))) {parts : List (Part Handle)}
    (haction : rule.action = .groups parts) :
    ∀ k < parts.length, k + 1 < found.captures.length := by
  obtain ⟨table, htable, hstate, hrule⟩ := hfaces.rule_mem
  obtain ⟨grammar, -, has⟩ := hbuilt.grammar htable
  obtain ⟨-, place, -, hmatch⟩ := hfaces.winner
  have hparts := has.groups_le hstate hrule haction
  have hcaptures := Pattern.matchAt_captures hmatch
  intro k hk
  omega

end Scan

-- The scan that a piece holds.
def Piece.scan? : Piece → Option Scan
  | .token _ => none
  | .nested scan => some scan

namespace Stream

-- All scans of a stream: those under way, and those that have not begun.
def held (stream : Stream) : List Scan :=
  (stream.active :: stream.waiting).flatMap fun level =>
    level.scan :: level.pending.filterMap Piece.scan?

variable {set : TableSet} {stream : Stream} {start : Nat}

theorem chain_sound {level : Level} {waiting : List Level}
    (h : Level.Chain set start level waiting) :
    ∀ other ∈ level :: waiting, ∃ start, other.Sound set start := by
  induction waiting generalizing start level with
  | nil =>
      intro other hmem
      obtain rfl := List.mem_singleton.mp hmem
      exact ⟨start, h⟩
  | cons outer waiting ih =>
      intro other hmem
      rcases List.mem_cons.mp hmem with rfl | hmem
      · exact ⟨start, h.active⟩
      · obtain ⟨-, -, -, -, hrest⟩ := h
        exact ih hrest other hmem

theorem Sound.held_sound (h : stream.Sound set start) : ∀ scan ∈ stream.held, scan.Sound set := by
  intro scan hmem
  obtain ⟨level, hlevel, hmem⟩ := List.mem_flatMap.mp hmem
  obtain ⟨start', hsound⟩ := chain_sound h level hlevel
  rcases List.mem_cons.mp hmem with rfl | hmem
  · exact hsound.scan
  · obtain ⟨piece, hpiece, hscan⟩ := List.mem_filterMap.mp hmem
    have hpieces := hsound.pieces piece hpiece
    cases piece with
    | token made => contradiction
    | nested inner =>
        obtain rfl := Option.some.inj hscan
        exact hpieces.1

-- Any number of calls run into no fault. The scans of the stream, and those whose steps have been
-- taken on the way, are in range; so is what each of these steps makes, and a rule that wins has a
-- capture for each part of its action.
theorem calls_in_range {grammars : List Grammar} {options : Options} {set : TableSet}
    (hbuild : TableSet.build grammars options = .ok set) {lexer : TableId} {table : Table}
    (htable : set.table? lexer = some table) {state? : Option StateId}
    (hstate : ∀ state ∈ state?, state < table.states.length) (text : Text)
    (base depth count : Nat) :
    ∃ answers final events,
      (calls set set.tracer count
          (.ofScan (.fresh lexer table.root state? text base depth))).run [] =
        (.ok (answers, final), events) ∧
      (∃ session, (calls set set.liveHost count
          (.ofScan (.fresh lexer table.root state? text base depth))).run Session.empty =
        (.ok (answers, final), session)) ∧
      (∀ scan ∈ final.held, scan.InRange set) ∧
      ∀ scan won, .step scan won ∈ events → scan.InRange set ∧
        (∃ next pieces, (scan.step set set.plainHost).run = .ok (next, pieces) ∧
          next.InRange set ∧ next.stack.frames.head? = scan.stack.frames.head? ∧
          ∀ inner, .nested inner ∈ pieces → inner.InRange set) ∧
        ∀ rule, won = some rule → ∃ state found, scan.Faces set state (some (rule, found)) ∧
          ∀ parts, rule.action = .groups parts →
            ∀ k < parts.length, k + 1 < found.captures.length := by
  have hset := TableSet.sound_of_build hbuild
  obtain ⟨hbuilt, -⟩ := (TableSet.build_settles grammars options).of_ok hbuild
  have hfresh := Scan.fresh_sound hset htable hstate text base depth
  have hstart : Sound set base (.ofScan (.fresh lexer table.root state? text base depth)) :=
    ofScan_sound hfresh rfl
  obtain ⟨answers, final, events, -, hcalls, hrun⟩ := calls_ok hset hstart count
  obtain ⟨taken, -, -, hfinal⟩ := hcalls.covers hset hstart
  refine ⟨answers, final, events, ?_, ?_, ?_, ?_⟩
  · exact hrun set.tracerReading []
  · obtain ⟨session, hlive, -⟩ := hrun hbuilt.reading Session.empty (Session.empty_right set)
    exact ⟨session, hlive⟩
  · intro scan hmem
    exact (hfinal.held_sound scan hmem).inRange
  · intro scan won hmem
    obtain ⟨hscan, hdone, state, found, hfaces, rfl⟩ :=
      (hcalls.taken hset hstart _ hmem).faces
    refine ⟨hscan.inRange, ?_, ?_⟩
    · obtain ⟨next, pieces, events', hsteps, hstep⟩ := Scan.step_ok hset hscan hdone
      obtain ⟨-, -, -, hpieces⟩ := hsteps.passes hset hscan
      refine ⟨next, pieces, hstep set.plainReading, ?_, ?_, ?_⟩
      · exact (hsteps.sound hset hscan).inRange
      · exact hsteps.frames_head hset hscan
      · intro inner hinner
        exact (hpieces _ hinner).1.inRange
    · intro rule hwon
      obtain ⟨⟨rule', found'⟩, rfl, rfl⟩ := Option.map_eq_some_iff.mp hwon
      exact ⟨state, found', hfaces, fun parts haction => hfaces.capture hbuilt haction⟩

theorem sample_calls_in_range : ∃ set table, TableSet.build [.sample] .sample = .ok set ∧
    set.table? 0 = some table ∧ (∀ state ∈ some 1, state < table.states.length) ∧
    ∃ answers final events,
      (calls set set.tracer 5
          (.ofScan (.fresh 0 table.root (some 1) "<ab<c>>12 d".toList 3 1))).run [] =
        (.ok (answers, final), events) ∧
      (∃ session, (calls set set.liveHost 5
          (.ofScan (.fresh 0 table.root (some 1) "<ab<c>>12 d".toList 3 1))).run Session.empty =
        (.ok (answers, final), session)) ∧
      (∀ scan ∈ final.held, scan.InRange set) ∧
      ∀ scan won, .step scan won ∈ events → scan.InRange set ∧
        (∃ next pieces, (scan.step set set.plainHost).run = .ok (next, pieces) ∧
          next.InRange set ∧ next.stack.frames.head? = scan.stack.frames.head? ∧
          ∀ inner, .nested inner ∈ pieces → inner.InRange set) ∧
        ∀ rule, won = some rule → ∃ state found, scan.Faces set state (some (rule, found)) ∧
          ∀ parts, rule.action = .groups parts →
            ∀ k < parts.length, k + 1 < found.captures.length := by
  obtain ⟨set, table, hbuild, htable, hstates⟩ := Grammar.sample_builds
  have hstate : ∀ state ∈ some 1, state < table.states.length := by simpa using hstates
  exact ⟨set, table, hbuild, htable, hstate, calls_in_range hbuild htable hstate _ 3 1 5⟩

end Stream

end StackLexer
