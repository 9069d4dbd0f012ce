import StackLexer.Proofs.Regex.Groups
import StackLexer.Proofs.Scan.Nesting
import StackLexer.Proofs.Scan.Range
import StackLexer.Proofs.Scan.Termination

namespace StackLexer

-- What is shown of a match of some text.
structure Scan.Shows (scan : Scan) (state : State) (rule : Rule) (found : Match)
    (context : MatchView) : Prop where
  nonempty : scan.cursor < found.span.stop
  input : context.input = scan.input
  whole : context.groupSpan? 0 = some ⟨scan.cursor, found.span.stop⟩
  span : context.span = ⟨scan.cursor, found.span.stop⟩
  text : context.text?.isSome
  groups : ∀ index span, context.groupSpan? index = some span →
    context.input.Inside context.span span ∧ (context.groupText? index).isSome
  captures : rule.pattern.capturesAt scan.input scan.cursor = some context.captures
  groupCount : context.groupCount = rule.pattern.groupCount
  state : context.state = state.name
  depth : context.depth = scan.stack.depth

-- The step goes on with what the callback returns, and only then applies the transition.
def Scan.Answers (set : TableSet) (scan : Scan) (rule : Rule) (call : Callback)
    (context : MatchView) : Prop :=
  ∃ next pieces, (scan.step set set.plainHost).run = .ok (next, pieces) ∧
    next.stack = (scan.stack.apply rule.ops).1 ∧
    (scan.segments set set.plainHost (Segment.partition scan.input context.span
      ((call.run context).map fun (kind, span) => (.kind kind, span)))).run = .ok pieces

-- A log of steps, each with the rule that won it, in which a callback is called just behind each
-- step that its rule has won with a match of some text.
inductive Called (set : TableSet) : List Event → Prop where
  | nil : Called set []
  | quiet {scan state won log} (hfaces : scan.Faces set state won)
      (hquiet : ∀ rule found call, won = some (rule, found) → rule.action = .callback call →
        found.span.stop = scan.cursor)
      (hrest : Called set log) : Called set (.step scan (won.map (·.1)) :: log)
  | call {scan state rule found call context log}
      (hfaces : scan.Faces set state (some (rule, found)))
      (haction : rule.action = .callback call) (hshows : scan.Shows state rule found context)
      (hanswers : scan.Answers set rule call context) (hrest : Called set log) :
      Called set (.step scan (some rule) :: .call context :: log)

theorem Called.append {set : TableSet} {log log' : List Event} (h : Called set log)
    (h' : Called set log') : Called set (log ++ log') := by
  induction h with
  | nil => exact h'
  | quiet hfaces hquiet _ ih => exact .quiet hfaces hquiet ih
  | call hfaces haction hshows hanswers _ ih => exact .call hfaces haction hshows hanswers ih

-- The step is made, and the match of its winner ends, at an offset of the outermost input or
-- before.
def Scan.EndsBy (scan : Scan) (won : Option Rule) (limit : Nat) : Prop :=
  scan.offset ≤ limit ∧ ∀ rule ∈ won, ∀ stop,
    rule.pattern.matchEnd scan.input scan.cursor = some stop → scan.base + stop ≤ limit

theorem Scan.EndsBy.mono {scan : Scan} {won : Option Rule} {limit limit' : Nat}
    (h : scan.EndsBy won limit) (hle : limit ≤ limit') : scan.EndsBy won limit' :=
  ⟨Nat.le_trans h.1 hle, fun rule hrule stop hstop => Nat.le_trans (h.2 rule hrule stop hstop) hle⟩

-- Of two steps at one depth, the later one is made where the earlier one ends or behind that.
def Event.Precedes : Event → Event → Prop
  | .step scan won, .step later _ => scan.depth = later.depth → scan.EndsBy won later.offset
  | _, _ => True

namespace Scan

variable {set : TableSet} {scan next : Scan} {state : State} {rule : Rule} {found : Match}
variable {pieces : List Piece} {events : List Event}

-- Group 0 lies inside of the match as well.
theorem Faces.capture_inside (hscan : scan.Sound set)
    (hfaces : scan.Faces set state (some (rule, found))) {span : Span}
    (hmem : some span ∈ found.captures) : scan.input.Inside found.span span := by
  obtain ⟨hstart, hle, hstop⟩ := hfaces.match_span hscan
  rcases List.mem_cons.mp hmem with heq | hmem
  · obtain rfl := Option.some.inj heq
    exact ⟨Nat.le_refl _, hstart ▸ hle, Nat.le_refl _, hstart ▸ hscan.cursor, hstop⟩
  · exact Pattern.matchText_groups hfaces.matchText_eq span hmem

theorem Faces.shows (hscan : scan.Sound set) (hfaces : scan.Faces set state (some (rule, found)))
    (hspan : scan.cursor < found.span.stop) :
    scan.Shows state rule found (scan.view state found) := by
  obtain ⟨hstart, -, -⟩ := hfaces.match_span hscan
  obtain ⟨-, place, -, hmatch⟩ := hfaces.winner
  have hlength := Pattern.matchAt_captures hmatch
  have hwhole : found.span = ⟨scan.cursor, found.span.stop⟩ := by rw [← hstart]
  have hinside : ∀ index span, (scan.view state found).groupSpan? index = some span →
      scan.input.Inside found.span span := by
    intro index span hgroup
    exact hfaces.capture_inside hscan (List.mem_of_getElem? (Option.join_eq_some_iff.mp hgroup))
  obtain ⟨part, hpart⟩ := (hinside 0 found.span rfl).slice?
  constructor
  case nonempty => exact hspan
  case whole => exact congrArg some hwhole
  case span => exact hwhole
  case text => exact Option.isSome_iff_exists.mpr ⟨part, hpart⟩
  case groups =>
    intro index span hgroup
    obtain ⟨own, hown⟩ := (hinside index span hgroup).slice?
    refine ⟨hinside index span hgroup, Option.isSome_iff_exists.mpr ⟨own, ?_⟩⟩
    rw [MatchView.groupText?, hgroup]
    exact hown
  case captures => rw [Pattern.capturesAt, hfaces.matchText_eq]; rfl
  case groupCount =>
    change found.captures.length - 1 = _
    rw [hlength, Nat.add_sub_cancel]
  all_goals rfl

theorem Faces.answers (hset : set.Sound) (hscan : scan.Sound set)
    (hfaces : scan.Faces set state (some (rule, found))) (hspan : scan.cursor < found.span.stop)
    {call : Callback} (haction : rule.action = .callback call) :
    scan.Answers set rule call (scan.view state found) := by
  obtain ⟨hsegments, hstep⟩ := hfaces.step_cut hset hscan hspan
  rw [cut, haction] at hsegments hstep
  exact ⟨_, _, hstep, rfl, hsegments⟩

-- A step calls the callback of its winner if it has one and matched some text.
theorem Steps.called (hset : set.Sound) (hscan : scan.Sound set)
    (h : Steps set scan next pieces events) : Called set events := by
  cases h with
  | fail hfaces => exact .quiet hfaces (by simp) .nil
  | stay hfaces hspan =>
      refine .quiet hfaces (fun rule found call hwon _ => ?_) .nil
      obtain ⟨rfl, rfl⟩ := Prod.mk.inj (Option.some.inj hwon)
      exact hspan
  | force hfaces hspan =>
      refine .quiet hfaces (fun rule found call hwon _ => ?_) .nil
      obtain ⟨rfl, rfl⟩ := Prod.mk.inj (Option.some.inj hwon)
      exact hspan
  | @take state rule found hfaces hspan =>
      unfold calls
      split
      case h_1 call haction =>
        exact .call hfaces haction (hfaces.shows hscan hspan)
          (hfaces.answers hset hscan hspan haction) .nil
      case h_2 hother =>
        refine .quiet hfaces (fun rule found call hwon haction => ?_) .nil
        obtain ⟨rfl, rfl⟩ := Prod.mk.inj (Option.some.inj hwon)
        exact absurd haction (hother call)

-- The match of a winner ends where the scan goes on, or before.
theorem Steps.stop_le (h : Steps set scan next pieces events)
    (hfaces : scan.Faces set state (some (rule, found))) : found.span.stop ≤ next.cursor := by
  rcases h.of_winner hfaces with ⟨-, rfl⟩ | ⟨-, rfl, -⟩ | ⟨-, -, c, rfl, -⟩
  · exact Nat.le_refl _
  · exact Nat.le_refl _
  · exact Nat.le_add_right _ _

-- A step is over where the scan goes on.
theorem Steps.endsBy (hset : set.Sound) (hscan : scan.Sound set)
    (h : Steps set scan next pieces events) {other : Scan} {won : Option Rule}
    (hmem : .step other won ∈ events) : other = scan ∧ scan.EndsBy won next.offset := by
  obtain ⟨read, hpasses, -, -⟩ := h.passes hset hscan
  obtain ⟨rfl, state, found, hfaces, rfl⟩ := h.of_mem hmem
  refine ⟨rfl, ?_, fun rule hrule stop hstop => ?_⟩
  · rw [hpasses.offset]
    exact Nat.le_add_right _ _
  · obtain ⟨⟨rule', found⟩, rfl, rfl⟩ := Option.map_eq_some_iff.mp hrule
    rw [Pattern.matchEnd, hfaces.matchText_eq] at hstop
    obtain rfl := Option.some.inj hstop
    rw [offset, hpasses.base]
    exact Nat.add_le_add_left (h.stop_le hfaces) _

theorem Steps.precedes (h : Steps set scan next pieces events) :
    events.Pairwise Event.Precedes := by
  obtain ⟨state, won, calls, -, rfl, hcalls⟩ := h.records
  refine List.pairwise_cons.mpr ⟨fun event hmem => ?_, ?_⟩
  · obtain ⟨context, rfl⟩ := hcalls event hmem
    trivial
  · refine List.pairwise_of_forall_mem_list fun event hmem _ _ => ?_
    obtain ⟨context, rfl⟩ := hcalls event hmem
    trivial

end Scan

namespace Stream

variable {set : TableSet} {stream stream' : Stream} {events log : List Event} {start : Nat}

theorem Moves.called (hset : set.Sound) (hstream : stream.Sound set start)
    (h : Moves set stream stream' events) : Called set events := by
  cases h with
  | enter => exact .nil
  | leave => exact .nil
  | step hdone hstep => exact hstep.called hset hstream.active.scan

theorem Next.called {answer : Option Token} (hset : set.Sound) (hstream : stream.Sound set start)
    (h : Next set stream answer stream' events) : Called set events := by
  induction h with
  | token => exact .nil
  | finish => exact .nil
  | move hmove _ ih => exact (hmove.called hset hstream).append (ih (hmove.sound hset hstream))

theorem Calls.called {answers : List (Option Token)} (hset : set.Sound)
    (hstream : stream.Sound set start) (h : Calls set stream answers stream' events) :
    Called set events := by
  induction h generalizing start with
  | nil => exact .nil
  | cons hnext _ ih =>
      obtain ⟨start', hbetween⟩ := hnext.sound hset hstream
      exact (hnext.called hset hstream).append (ih hbetween)

-- What is on record at the depth of a scan under way ends before the scan goes on; and what is on
-- record further in has ended.
structure Ordered (start : Nat) (scans : List Scan) (log : List Event) : Prop where
  pairwise : log.Pairwise Event.Precedes
  under : ∀ current ∈ scans, ∀ scan won, .step scan won ∈ log → scan.depth = current.depth →
    scan.EndsBy won current.offset
  ended : ∀ current ∈ scans.head?, ∀ scan won, .step scan won ∈ log →
    current.depth < scan.depth → scan.EndsBy won start

theorem ordered_enter {scan inner : Scan} {rest : List Piece} {waiting : List Level}
    (hstream : Sound set start ⟨⟨scan, .nested inner :: rest⟩, waiting⟩)
    (h : Ordered start (scan :: waiting.map Level.scan) log) :
    Ordered start (inner :: scan :: waiting.map Level.scan) log := by
  obtain ⟨hbase, -, ⟨-, hcursor, hdepth, -⟩, -⟩ := hstream.active.cons
  change inner.base = start at hbase
  have hended := h.ended scan rfl
  have hoffset : inner.offset = start := by rw [Scan.offset, hbase, hcursor, Nat.add_zero]
  refine ⟨h.pairwise, List.forall_mem_cons.mpr ⟨?_, h.under⟩, ?_⟩
  · intro other won hmem hsame
    rw [hoffset]
    exact hended other won hmem (by omega)
  · rintro _ ⟨⟩ other won hmem hlt
    exact hended other won hmem (by omega)

theorem ordered_leave {scan : Scan} {level : Level} {waiting : List Level}
    (hstream : Sound set start ⟨⟨scan, []⟩, level :: waiting⟩)
    (h : Ordered start (scan :: level.scan :: waiting.map Level.scan) log) :
    Ordered start (level.scan :: waiting.map Level.scan) log := by
  have hoffset : scan.offset = start := hstream.active.idle
  have hdepth : scan.depth = level.scan.depth + 1 := hstream.2.1
  obtain ⟨hunder, hwaiting⟩ := List.forall_mem_cons.mp h.under
  refine ⟨h.pairwise, hwaiting, ?_⟩
  rintro _ ⟨⟩ other won hmem hlt
  rcases Nat.lt_or_eq_of_le (hdepth ▸ hlt : scan.depth ≤ other.depth) with hlt | heq
  · exact h.ended scan rfl other won hmem hlt
  · exact hoffset ▸ hunder other won hmem heq.symm

theorem ordered_step (hset : set.Sound) {scan next : Scan} {pieces : List Piece}
    {waiting : List Level} (hstream : Sound set start ⟨⟨scan, []⟩, waiting⟩)
    (hstep : scan.Steps set next pieces events)
    (h : Ordered start (scan :: waiting.map Level.scan) log) :
    Ordered start (next :: waiting.map Level.scan) (log ++ events) := by
  have hscan : scan.Sound set := hstream.active.scan
  have hdepths := depth_lt hstream
  obtain ⟨read, hpasses, -, -⟩ := hstep.passes hset hscan
  obtain ⟨hunder, hwaiting⟩ := List.forall_mem_cons.mp h.under
  constructor
  · refine List.pairwise_append.mpr ⟨h.pairwise, hstep.precedes, fun event hmem event' hmem' => ?_⟩
    cases event with
    | call context => trivial
    | step other won =>
        cases event' with
        | call context => trivial
        | step other' won' =>
            obtain ⟨rfl, -⟩ := hstep.endsBy hset hscan hmem'
            exact hunder other won hmem
  · refine List.forall_mem_cons.mpr ⟨fun other won hmem hsame => ?_,
      fun outer houter other won hmem hsame => ?_⟩
    · rcases List.mem_append.mp hmem with hmem | hmem
      · refine (hunder other won hmem (hsame.trans hpasses.depth)).mono ?_
        rw [hpasses.offset]
        exact Nat.le_add_right _ _
      · obtain ⟨rfl, hends⟩ := hstep.endsBy hset hscan hmem
        exact hends
    · rcases List.mem_append.mp hmem with hmem | hmem
      · exact hwaiting outer houter other won hmem hsame
      · obtain ⟨rfl, -⟩ := hstep.endsBy hset hscan hmem
        have hlt : outer.depth < other.depth := hdepths outer houter
        omega
  · rintro _ ⟨⟩ other won hmem hlt
    rw [hpasses.depth] at hlt
    rcases List.mem_append.mp hmem with hmem | hmem
    · exact h.ended scan rfl other won hmem hlt
    · obtain ⟨rfl, -⟩ := hstep.endsBy hset hscan hmem
      omega

theorem Moves.ordered (hset : set.Sound) (hstream : stream.Sound set start)
    (h : Moves set stream stream' events) (hlog : Ordered start stream.scans log) :
    Ordered start stream'.scans (log ++ events) := by
  cases h with
  | enter =>
      rw [List.append_nil]
      exact ordered_enter hstream hlog
  | leave =>
      rw [List.append_nil]
      exact ordered_leave hstream hlog
  | step hdone hstep => exact ordered_step hset hstream hstep hlog

theorem Next.ordered {answer : Option Token} (hset : set.Sound)
    (hstream : stream.Sound set start) (h : Next set stream answer stream' events)
    (hlog : Ordered start stream.scans log) :
    ∃ start', stream'.Sound set start' ∧ Ordered start' stream'.scans (log ++ events) := by
  induction h generalizing log with
  | @token scan made rest waiting =>
      obtain ⟨-, -, -, hlevel⟩ := hstream.active.cons
      refine ⟨_, hstream.of_active hlevel rfl rfl rfl, ?_⟩
      rw [List.append_nil]
      refine ⟨hlog.pairwise, hlog.under, fun current hcurrent other won hmem hlt => ?_⟩
      exact (hlog.ended current hcurrent other won hmem hlt).mono (Nat.le_add_right _ _)
  | finish =>
      rw [List.append_nil]
      exact ⟨start, hstream, hlog⟩
  | @move stream between stream' answer events events' hmove _ ih =>
      rw [← List.append_assoc]
      exact ih (hmove.sound hset hstream) (hmove.ordered hset hstream hlog)

theorem Calls.precedes {answers : List (Option Token)} (hset : set.Sound)
    (hstream : stream.Sound set start) (h : Calls set stream answers stream' events)
    (hlog : Ordered start stream.scans log) : (log ++ events).Pairwise Event.Precedes := by
  induction h generalizing log start with
  | nil =>
      rw [List.append_nil]
      exact hlog.pairwise
  | cons hnext _ ih =>
      obtain ⟨start', hbetween, hlog'⟩ := hnext.ordered hset hstream hlog
      rw [← List.append_assoc]
      exact ih hbetween hlog'

-- A session in order that keeps the calls on record, the latest first.
structure Follows (set : TableSet) (log : List Event) (session : Session) : Prop where
  right : session.Right set
  calls : session.calls.reverse = log.filterMap Event.context?

theorem resolve_calls (set : TableSet) (current : TableId) (handle : Handle) (session : Session) :
    (Session.resolve set current handle session).2.calls = session.calls := by
  unfold Session.resolve
  split <;> rfl

theorem record_follows {session : Session} (h : Follows set log session) (event : Event) :
    Follows set (log ++ [event]) (Session.record event session).2 := by
  refine ⟨TableSet.BuiltAs.record_right h.right event, ?_⟩
  rw [List.filterMap_append, ← h.calls]
  cases event with
  | step scan won => exact (List.append_nil _).symm
  | call context => exact List.reverse_cons

-- A session keeps what a run records.
def followsReading {grammars : List Grammar} (hbuilt : TableSet.BuiltAs grammars set) :
    Reading set set.liveHost where
  Gives x a events := ∀ log session, Follows set log session →
    ∃ session', x session = (a, session') ∧ Follows set (log ++ events) session'
  pure _ log session h := ⟨session, rfl, by rwa [List.append_nil]⟩
  bind {_ _ x f a b events events'} hx hf log session h := by
    obtain ⟨between, hbetween, h⟩ := hx log session h
    obtain ⟨after, hafter, h⟩ := hf (log ++ events) between h
    refine ⟨after, ?_, List.append_assoc log events events' ▸ h⟩
    change f (x session).1 (x session).2 = _
    rw [hbetween, hafter]
  map {_ _ x} f {a events} hx log session h := by
    obtain ⟨after, hafter, h⟩ := hx log session h
    refine ⟨after, ?_, h⟩
    change (f (x session).1, (x session).2) = _
    rw [hafter]
  resolve current handle hdeclared log session h := by
    obtain ⟨session', hresolve, hright⟩ := hbuilt.resolve_right hdeclared h.right
    have hcalls := resolve_calls set current handle session
    refine ⟨session', hresolve, hright, ?_⟩
    change Session.resolve set current handle session = _ at hresolve
    rw [hresolve] at hcalls
    rw [List.append_nil, ← h.calls]
    exact congrArg List.reverse hcalls
  record event log session h := ⟨_, rfl, record_follows h event⟩

end Stream

-- In every run, each match of some text is shown to the callback of the rule that won it, once and
-- in the order of the input, and no callback is called otherwise. A session keeps the same calls.
theorem callbacks_called {grammars : List Grammar} {options : Options} {set : TableSet}
    (hbuild : TableSet.build grammars options = .ok set) {lexer : TableId} {table : Table}
    (htable : set.table? lexer = some table) {state? : Option StateId}
    (hstate : ∀ state ∈ state?, state < table.states.length) (text : Text)
    (base depth count : Nat) :
    ∃ answers final log session,
      (Stream.calls set set.tracer count
        (.ofScan (.fresh lexer table.root state? text base depth))).run.run [] =
          (.ok (answers, final), log) ∧
      Called set log ∧ log.Pairwise Event.Precedes ∧
      (Stream.calls set set.liveHost count
        (.ofScan (.fresh lexer table.root state? text base depth))).run.run Session.empty =
          (.ok (answers, final), session) ∧
      session.calls.reverse = log.filterMap Event.context? := by
  have hset := TableSet.sound_of_build hbuild
  have hbuilt := ((TableSet.build_settles grammars options).of_ok hbuild).1
  have hstart := Stream.ofScan_sound (Scan.fresh_sound hset htable hstate text base depth) rfl
  obtain ⟨answers, final, events, -, hcalls, hrun⟩ := Stream.calls_ok hset hstart count
  obtain ⟨session, hlive, hfollows⟩ := hrun (Stream.followsReading hbuilt) [] Session.empty
    ⟨Session.empty_right set, rfl⟩
  have hordered : Stream.Ordered (Scan.fresh lexer table.root state? text base depth).base
      (Stream.scans (.ofScan (.fresh lexer table.root state? text base depth))) [] :=
    ⟨.nil, by simp, by simp⟩
  exact ⟨answers, final, [] ++ events, session, hrun set.tracerReading [],
    hcalls.called hset hstart, hcalls.precedes hset hstart hordered, hlive, hfollows.calls⟩

-- Digits by a callback of another state, and texts in brackets scanned on their own.
def Grammar.tally : Grammar :=
  ((Grammar.new "tally").setState "root"
    [.include "digits", .rule ⟨"<([0-z]*)>", .groups [.delegate ⟨.this, none⟩], ⟨[]⟩⟩]).setState
      "digits" [.rule ⟨"([0-9])([a-z])?", .callback ⟨fun context => [(.number, context.span)]⟩,
        ⟨[.push "root"]⟩⟩]

-- The callback sees the state that takes it in, and the stack of its own scan.
theorem Grammar.tally_calls :
    ∃ set table, TableSet.build [tally] .sample = .ok set ∧ set.table? 0 = some table ∧
      ((Stream.calls set set.liveHost 9
        (.ofScan (.fresh 0 table.root none "1<2b>3".toList 0 0))).run.run Session.empty).2.calls =
          [⟨"1<2b>3".toList, [some ⟨5, 6⟩, some ⟨5, 6⟩, none], "root", 2⟩,
           ⟨"2b".toList, [some ⟨0, 2⟩, some ⟨0, 1⟩, some ⟨1, 2⟩], "root", 1⟩,
           ⟨"1<2b>3".toList, [some ⟨0, 1⟩, some ⟨0, 1⟩, none], "root", 1⟩] := by
  have hcalls : ((TableSet.build [tally] .sample).toOption.any fun set =>
      (set.table? 0).any fun table => ((Stream.calls set set.liveHost 9
        (.ofScan (.fresh 0 table.root none "1<2b>3".toList 0 0))).run.run Session.empty).2.calls ==
          [⟨"1<2b>3".toList, [some ⟨5, 6⟩, some ⟨5, 6⟩, none], "root", 2⟩,
           ⟨"2b".toList, [some ⟨0, 2⟩, some ⟨0, 1⟩, some ⟨1, 2⟩], "root", 1⟩,
           ⟨"1<2b>3".toList, [some ⟨0, 1⟩, some ⟨0, 1⟩, none], "root", 1⟩]) = true := by
    decide +kernel
  obtain ⟨set, hbuild, hcalls⟩ := exists_ok_of_any hcalls
  obtain ⟨table, htable, hcalls⟩ := (Option.any_eq_true _ _).mp hcalls
  exact ⟨set, table, hbuild, htable, beq_iff_eq.mp hcalls⟩

theorem tally_callbacks_called :
    ∃ set table, TableSet.build [.tally] .sample = .ok set ∧ set.table? 0 = some table ∧
      ∃ answers final log,
        (Stream.calls set set.tracer 9
          (.ofScan (.fresh 0 table.root none "1<2b>3".toList 0 0))).run.run [] =
            (.ok (answers, final), log) ∧
        Called set log ∧ log.Pairwise Event.Precedes ∧
        log.filterMap Event.context? =
          [⟨"1<2b>3".toList, [some ⟨0, 1⟩, some ⟨0, 1⟩, none], "root", 1⟩,
           ⟨"2b".toList, [some ⟨0, 2⟩, some ⟨0, 1⟩, some ⟨1, 2⟩], "root", 1⟩,
           ⟨"1<2b>3".toList, [some ⟨5, 6⟩, some ⟨5, 6⟩, none], "root", 2⟩] := by
  obtain ⟨set, table, hbuild, htable, hcalls⟩ := Grammar.tally_calls
  have hstate : ∀ state ∈ (none : Option StateId), state < table.states.length := by simp
  obtain ⟨answers, final, log, session, hrun, hcalled, hordered, hlive, hkept⟩ :=
    callbacks_called hbuild htable hstate "1<2b>3".toList 0 0 9
  rw [hlive] at hcalls
  refine ⟨set, table, hbuild, htable, answers, final, log, hrun, hcalled, hordered, ?_⟩
  rw [← hkept, hcalls]
  rfl

end StackLexer
