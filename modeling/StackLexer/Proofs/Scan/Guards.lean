import StackLexer.Proofs.Scan.Outline
import StackLexer.Proofs.Scan.Termination

namespace StackLexer

def Segment.isDelegated : Segment (Part Handle) → Bool
  | .claimed (.delegate _) _ => true
  | _ => false

-- Some of the match is to be scanned in its own right.
def Scan.delegates (scan : Scan) (rule : Rule) (found : Match) : Bool :=
  match rule.action with
  | .delegate _ => true
  | .groups parts => (Segment.partition scan.input found.span
      (groupPieces parts found.groups)).any Segment.isDelegated
  | _ => false

namespace Event

-- The winner of the step matched no text.
def isStay : Event → Bool
  | .step scan (some rule) => rule.pattern.matchEnd scan.input scan.cursor == some scan.cursor
  | _ => false

-- The event is a step at the place where `scan` is, and its winner matched no text.
def isStayAt (scan : Scan) (event : Event) : Bool :=
  event.isStepOf scan && event.isStay &&
    match event with
    | .step other _ => other.cursor == scan.cursor
    | .call _ => false

-- The winner of the step matched some text, and hands a part of it to another scan.
def isDelegation : Event → Bool
  | .step scan (some rule) => (rule.pattern.matchText scan.input scan.cursor).any fun found =>
      decide (scan.cursor < found.span.stop) && scan.delegates rule found
  | _ => false

-- The step meets a limit: the count of its scan does not allow another match of no text, or the
-- scan is too deep to delegate.
def isLimited (options : Options) : Event → Bool
  | .step scan won =>
      (step scan won).isStay && decide (options.maxEmptySteps ≤ scan.emptySteps) ||
        (step scan won).isDelegation && decide (options.maxDelegationDepth ≤ scan.depth)
  | .call _ => false

end Event

-- The matches of no text at the place where `scan` is.
def staysAt (scan : Scan) (log : List Event) : Nat := log.countP (Event.isStayAt scan)

-- No scan has more matches of no text at one place than the options allow, and none that is as deep
-- as they allow delegates.
structure Quiet (options : Options) (log : List Event) : Prop where
  stays : ∀ scan, staysAt scan log ≤ options.maxEmptySteps
  depths : ∀ scan won, .step scan won ∈ log → (Event.step scan won).isDelegation = true →
    scan.depth < options.maxDelegationDepth

theorem Quiet.mono {options options' : Options} {log : List Event}
    (hsteps : options.maxEmptySteps ≤ options'.maxEmptySteps)
    (hdepth : options.maxDelegationDepth ≤ options'.maxDelegationDepth)
    (h : Quiet options log) : Quiet options' log where
  stays scan := Nat.le_trans (h.stays scan) hsteps
  depths scan won hmem hdelegates := Nat.lt_of_lt_of_le (h.depths scan won hmem hdelegates) hdepth

section Stays

variable {scan other : Scan} {log : List Event}

theorem staysAt_append (scan : Scan) (log log' : List Event) :
    staysAt scan (log ++ log') = staysAt scan log + staysAt scan log' :=
  List.countP_append

theorem staysAt_le_stepsOf (scan : Scan) (log : List Event) :
    staysAt scan log ≤ stepsOf scan log := by
  refine List.countP_mono_left fun event _ hevent => ?_
  simp only [Event.isStayAt, Bool.and_eq_true] at hevent
  exact hevent.1.1

theorem isStayAt_step {won : Option Rule} : Event.isStayAt scan (.step other won) = true ↔
    other.depth = scan.depth ∧ other.base = scan.base ∧ other.cursor = scan.cursor ∧
      (Event.step other won).isStay = true := by
  simp only [Event.isStayAt, Event.isStepOf, Bool.and_eq_true, beq_iff_eq]
  constructor
  · rintro ⟨⟨⟨hdepth, hbase⟩, hstay⟩, hcursor⟩
    exact ⟨hdepth, hbase, hcursor, hstay⟩
  · rintro ⟨hdepth, hbase, hcursor, hstay⟩
    exact ⟨⟨⟨hdepth, hbase⟩, hstay⟩, hcursor⟩

theorem staysAt_congr (hdepth : other.depth = scan.depth) (hbase : other.base = scan.base)
    (hcursor : other.cursor = scan.cursor) (log : List Event) :
    staysAt other log = staysAt scan log := by
  have hsame : Event.isStayAt other = Event.isStayAt scan := by
    funext event
    cases event <;> simp [Event.isStayAt, Event.isStepOf, hdepth, hbase, hcursor]
  rw [staysAt, staysAt, hsame]

theorem staysAt_eq_zero (hnone : ∀ other won, .step other won ∈ log → other.depth = scan.depth →
    other.base = scan.base → other.cursor ≠ scan.cursor) : staysAt scan log = 0 := by
  refine List.countP_eq_zero.mpr fun event hmem hstay => ?_
  cases event with
  | call context => simp [Event.isStayAt] at hstay
  | step other won =>
      obtain ⟨hdepth, hbase, hcursor, -⟩ := isStayAt_step.mp hstay
      exact hnone other won hmem hdepth hbase hcursor

-- A step and its calls are counted where the step is, if its winner matched no text.
theorem staysAt_step {won : Option Rule} {calls : List Event}
    (hcalls : ∀ event ∈ calls, ∃ context, event = .call context) :
    staysAt scan (.step other won :: calls) =
      if Event.isStayAt scan (.step other won) = true then 1 else 0 := by
  have hnone : staysAt scan calls = 0 := by
    refine staysAt_eq_zero fun inner won hmem => ?_
    obtain ⟨context, hcontext⟩ := hcalls _ hmem
    contradiction
  rw [staysAt] at hnone
  rw [staysAt, List.countP_cons, hnone, Nat.zero_add]

end Stays

-- A log in which every scan counted rightly: when it took a step, its count was that of the matches
-- of no text on record at its place.
inductive Tallied : List Event → Prop where
  | nil : Tallied []
  | step {log scan won calls} (hlog : Tallied log) (hcount : staysAt scan log = scan.emptySteps)
      (hcalls : ∀ event ∈ calls, ∃ context, event = .call context) :
      Tallied (log ++ .step scan won :: calls)

-- So the matches of no text at one place are too many just if one of them met the limit.
theorem Tallied.stays_iff {log : List Event} (h : Tallied log) (limit : Nat) :
    (∀ scan, staysAt scan log ≤ limit) ↔
      ∀ scan won, .step scan won ∈ log → (Event.step scan won).isStay = true →
        scan.emptySteps < limit := by
  induction h with
  | nil => simp [staysAt]
  | @step log scan won calls hlog hcount hcalls ih =>
      have hadd : ∀ place, staysAt place (log ++ .step scan won :: calls) = staysAt place log +
          if Event.isStayAt place (.step scan won) = true then 1 else 0 := by
        intro place
        rw [staysAt_append, staysAt_step hcalls]
      constructor
      · intro hle other won' hmem hstay
        rcases List.mem_append.mp hmem with hmem | hmem
        · refine ih.mp (fun place => ?_) other won' hmem hstay
          have hplace := hle place
          rw [hadd] at hplace
          omega
        · obtain ⟨rfl, rfl⟩ := Scan.step_of_mem hcalls hmem
          have hplace := hle other
          rw [hadd, if_pos (isStayAt_step.mpr ⟨rfl, rfl, rfl, hstay⟩), hcount] at hplace
          omega
      · intro hlt place
        have hplace := ih.mpr (fun other won' hmem => hlt other won' (by simp [hmem])) place
        rw [hadd]
        split
        case isFalse => exact hplace
        case isTrue hstay =>
          obtain ⟨hdepth, hbase, hcursor, hstay⟩ := isStayAt_step.mp hstay
          have hlast := hlt scan won (by simp) hstay
          rw [← staysAt_congr hdepth hbase hcursor, hcount]
          exact hlast

theorem Tallied.quiet_iff {log : List Event} (h : Tallied log) (options : Options) :
    Quiet options log ↔ ∀ event ∈ log, event.isLimited options = false := by
  have hlimited : ∀ scan won, (Event.step scan won).isLimited options = false ↔
      ((Event.step scan won).isStay = true → scan.emptySteps < options.maxEmptySteps) ∧
      ((Event.step scan won).isDelegation = true → scan.depth < options.maxDelegationDepth) := by
    intro scan won
    simp only [Event.isLimited, Bool.or_eq_false_iff, Bool.and_eq_false_imp,
      decide_eq_false_iff_not, Nat.not_le]
  constructor
  · intro hquiet event hmem
    cases event with
    | call context => rfl
    | step scan won =>
        exact (hlimited scan won).mpr
          ⟨(h.stays_iff _).mp hquiet.stays scan won hmem, hquiet.depths scan won hmem⟩
  · intro hnone
    refine ⟨(h.stays_iff _).mpr fun scan won hmem => ?_, fun scan won hmem => ?_⟩
    · exact ((hlimited scan won).mp (hnone _ hmem)).1
    · exact ((hlimited scan won).mp (hnone _ hmem)).2

namespace Scan

variable {set : TableSet} {scan next : Scan} {pieces : List Piece} {events : List Event}
variable {state : State} {rule : Rule} {found : Match}

theorem Faces.isStay_iff (h : scan.Faces set state (some (rule, found))) :
    (Event.step scan (some rule)).isStay = true ↔ found.span.stop = scan.cursor := by
  rw [Event.isStay, Pattern.matchEnd, h.matchText_eq]
  simp

theorem Faces.isDelegation_iff (h : scan.Faces set state (some (rule, found))) :
    (Event.step scan (some rule)).isDelegation = true ↔
      scan.cursor < found.span.stop ∧ scan.delegates rule found = true := by
  rw [Event.isDelegation, h.matchText_eq]
  simp

-- Either the scan goes on and its count is set back, or it stays and both counts go up.
theorem Steps.counts (hscan : scan.Sound set) (h : Steps set scan next pieces events) :
    (scan.cursor < next.cursor ∧ next.emptySteps = 0) ∨
      (next.cursor = scan.cursor ∧ next.emptySteps = scan.emptySteps + 1 ∧
        staysAt scan events = 1) := by
  cases h with
  | @fail state c rest hfaces hrest =>
      exact .inl ⟨Nat.lt_add_of_pos_right (Char.utf8Size_pos c), rfl⟩
  | @take state rule found hfaces hspan =>
      obtain ⟨hstart, -, -⟩ := hfaces.match_span hscan
      have hempty : found.span.isEmpty = false := decide_eq_false (by omega)
      exact .inl ⟨hspan, by simp [follow, hempty]⟩
  | @stay state rule found hfaces hspan hlimit =>
      obtain ⟨hstart, -, -⟩ := hfaces.match_span hscan
      have hempty : found.span.isEmpty = true := decide_eq_true (by omega)
      refine .inr ⟨hspan, by simp [follow, hempty], ?_⟩
      rw [staysAt_step (by simp),
        if_pos (isStayAt_step.mpr ⟨rfl, rfl, rfl, hfaces.isStay_iff.mpr hspan⟩)]
  | @force state rule found c rest hfaces hspan hlimit hrest =>
      refine .inl ⟨?_, rfl⟩
      have hc := Char.utf8Size_pos c
      change scan.cursor < found.span.stop + c.utf8Size
      omega

-- A scan that a step hands out has counted nothing.
theorem Steps.nested_emptySteps (h : Steps set scan next pieces events) :
    ∀ inner, .nested inner ∈ pieces → inner.emptySteps = 0 := by
  have herrors : ∀ (start : Nat) (text : Text) (inner : Scan),
      .nested inner ∉ errorTokens start text := by
    intro start text inner
    induction text generalizing start with
    | nil => simp [errorTokens]
    | cons c text ih => simp [errorTokens, ih]
  have hdelegated : ∀ (handle : Handle) (span : Span) (inner : Scan),
      .nested inner ∈ scan.delegated set handle span → inner.emptySteps = 0 := by
    intro handle span inner hmem
    unfold delegated at hmem
    split at hmem
    · exact absurd hmem (herrors _ _ _)
    · split at hmem
      · exact absurd hmem (herrors _ _ _)
      · obtain ⟨table, -, heq⟩ := Option.map_eq_some_iff.mp (Option.mem_toList.mp hmem)
        obtain rfl := Piece.nested.inj heq
        rfl
  cases h with
  | fail => exact fun inner hmem => absurd hmem (herrors _ _ _)
  | stay => simp
  | force => exact fun inner hmem => absurd hmem (herrors _ _ _)
  | take hfaces hspan =>
      intro inner hmem
      obtain ⟨segment, -, hpiece⟩ := List.mem_flatMap.mp hmem
      cases segment with
      | unclaimed span => exact absurd hpiece (herrors _ _ _)
      | claimed part span =>
          cases part with
          | kind kind => simp [piecesOf] at hpiece
          | delegate handle => exact hdelegated handle span inner hpiece

end Scan

namespace Stream

-- The scans under way have counted rightly, and none is behind a step that it has taken. Those that
-- are still to come have not begun.
structure Counted (stream : Stream) (log : List Event) : Prop where
  tallied : Tallied log
  counts : ∀ scan ∈ stream.scans, staysAt scan log = scan.emptySteps
  behind : ∀ scan ∈ stream.scans, ∀ other won, .step other won ∈ log →
    other.depth = scan.depth → other.base = scan.base → other.cursor ≤ scan.cursor
  fresh : ∀ level ∈ stream.active :: stream.waiting, ∀ inner, .nested inner ∈ level.pending →
    inner.emptySteps = 0

section Counted

variable {set : TableSet} {stream stream' : Stream} {events log : List Event} {start : Nat}

theorem counted_enter {scan inner : Scan} {rest : List Piece} {waiting : List Level}
    (hstream : Sound set start ⟨⟨scan, .nested inner :: rest⟩, waiting⟩)
    (hlog : Accounted set start (scan :: waiting.map Level.scan) log)
    (h : Counted ⟨⟨scan, .nested inner :: rest⟩, waiting⟩ log) :
    Counted ⟨⟨inner, []⟩, ⟨scan, rest⟩ :: waiting⟩ log := by
  have hapart := hlog.apart hstream
  obtain ⟨hpending, hwaiting⟩ := List.forall_mem_cons.mp h.fresh
  refine ⟨h.tallied, List.forall_mem_cons.mpr ⟨?_, h.counts⟩,
    List.forall_mem_cons.mpr ⟨?_, h.behind⟩, ?_⟩
  · rw [hpending inner (by simp)]
    exact staysAt_eq_zero fun other won hmem hdepth hbase =>
      absurd hbase.symm (hapart other won hmem hdepth.symm)
  · exact fun other won hmem hdepth hbase => absurd hbase.symm (hapart other won hmem hdepth.symm)
  · refine List.forall_mem_cons.mpr ⟨by simp, List.forall_mem_cons.mpr ⟨?_, hwaiting⟩⟩
    exact fun other hmem => hpending other (List.mem_cons_of_mem _ hmem)

theorem counted_step (hset : set.Sound) {scan next : Scan} {pieces : List Piece}
    {waiting : List Level} (hstream : Sound set start ⟨⟨scan, []⟩, waiting⟩)
    (hstep : scan.Steps set next pieces events) (h : Counted ⟨⟨scan, []⟩, waiting⟩ log) :
    Counted ⟨⟨next, pieces⟩, waiting⟩ (log ++ events) := by
  have hscan : scan.Sound set := hstream.active.scan
  have hdepths := depth_lt hstream
  obtain ⟨read, hpasses, -, -⟩ := hstep.passes hset hscan
  obtain ⟨hcount, hcounts⟩ := List.forall_mem_cons.mp h.counts
  obtain ⟨hbehind, hbehinds⟩ := List.forall_mem_cons.mp h.behind
  obtain ⟨-, hwaiting⟩ := List.forall_mem_cons.mp h.fresh
  have hmoved := hstep.counts hscan
  have hnested := hstep.nested_emptySteps
  have hothers : ∀ outer ∈ waiting.map Level.scan, stepsOf outer events = 0 := by
    intro outer hmem
    have hlt : outer.depth < scan.depth := hdepths outer hmem
    exact hstep.stepsOf_other outer (fun hdepth => by omega)
  obtain ⟨-, won, calls, -, rfl, hcalls⟩ := hstep.records
  -- what is on record at the depth and the base of the scan lies at its old cursor or before it
  have hnext : ∀ other won', .step other won' ∈ log ++ .step scan (won.map (·.1)) :: calls →
      other.depth = next.depth → other.base = next.base → other.cursor ≤ scan.cursor := by
    intro other won' hmem hdepth hbase
    rw [hpasses.depth] at hdepth
    rw [hpasses.base] at hbase
    rcases List.mem_append.mp hmem with hmem | hmem
    · exact hbehind other won' hmem hdepth hbase
    · obtain ⟨rfl, -⟩ := Scan.step_of_mem hcalls hmem
      exact Nat.le_refl _
  constructor
  · exact .step h.tallied hcount hcalls
  · refine List.forall_mem_cons.mpr ⟨?_, fun outer hmem => ?_⟩
    · change staysAt next _ = next.emptySteps
      rcases hmoved with ⟨hlt, hzero⟩ | ⟨hcursor, hup, hone⟩
      · rw [hzero]
        refine staysAt_eq_zero fun other won' hmem hdepth hbase => ?_
        have hle := hnext other won' hmem hdepth hbase
        omega
      · rw [staysAt_congr hpasses.depth hpasses.base hcursor, staysAt_append, hone, hcount, hup]
    · have hzero := staysAt_le_stepsOf outer (.step scan (won.map (·.1)) :: calls)
      rw [hothers outer hmem, Nat.le_zero] at hzero
      rw [staysAt_append, hzero]
      exact hcounts outer hmem
  · refine List.forall_mem_cons.mpr ⟨fun other won' hmem hdepth hbase => ?_,
      fun outer hmem other won' hrecord hdepth hbase => ?_⟩
    · have hle := hnext other won' hmem hdepth hbase
      change other.cursor ≤ next.cursor
      rcases hmoved with ⟨hlt, -⟩ | ⟨hcursor, -, -⟩ <;> omega
    · rcases List.mem_append.mp hrecord with hrecord | hrecord
      · exact hbehinds outer hmem other won' hrecord hdepth hbase
      · have hnone := List.countP_eq_zero.mp (hothers outer hmem) _ hrecord
        simp [Event.isStepOf, hdepth, hbase] at hnone
  · exact List.forall_mem_cons.mpr ⟨hnested, hwaiting⟩

theorem Moves.counted (hset : set.Sound) (hstream : stream.Sound set start)
    (hlog : Accounted set start stream.scans log) (h : Moves set stream stream' events)
    (hcounted : Counted stream log) : Counted stream' (log ++ events) := by
  cases h with
  | enter =>
      rw [List.append_nil]
      exact counted_enter hstream hlog hcounted
  | leave =>
      rw [List.append_nil]
      obtain ⟨-, hcounts⟩ := List.forall_mem_cons.mp hcounted.counts
      obtain ⟨-, hbehinds⟩ := List.forall_mem_cons.mp hcounted.behind
      obtain ⟨-, hwaiting⟩ := List.forall_mem_cons.mp hcounted.fresh
      exact ⟨hcounted.tallied, hcounts, hbehinds, hwaiting⟩
  | step hdone hstep => exact counted_step hset hstream hstep hcounted

theorem Next.counted {answer : Option Token} (hset : set.Sound) (hstream : stream.Sound set start)
    (hlog : Accounted set start stream.scans log) (h : Next set stream answer stream' events)
    (hcounted : Counted stream log) : Counted stream' (log ++ events) := by
  induction h generalizing log with
  | @token scan made rest waiting =>
      obtain ⟨hpending, hwaiting⟩ := List.forall_mem_cons.mp hcounted.fresh
      rw [List.append_nil]
      refine ⟨hcounted.tallied, hcounted.counts, hcounted.behind,
        List.forall_mem_cons.mpr ⟨?_, hwaiting⟩⟩
      exact fun inner hmem => hpending inner (List.mem_cons_of_mem _ hmem)
  | finish =>
      rw [List.append_nil]
      exact hcounted
  | move hmove _ ih =>
      rw [← List.append_assoc]
      exact ih (hmove.sound hset hstream) (hmove.accounted hset hstream hlog)
        (hmove.counted hset hstream hlog hcounted)

theorem Calls.counted {answers : List (Option Token)} (hset : set.Sound)
    (hstream : stream.Sound set start) (hlog : Accounted set start stream.scans log)
    (h : Calls set stream answers stream' events) (hcounted : Counted stream log) :
    Counted stream' (log ++ events) := by
  induction h generalizing log start with
  | nil =>
      rw [List.append_nil]
      exact hcounted
  | cons hnext _ ih =>
      obtain ⟨start', hbetween, hlog'⟩ := hnext.accounted hset hstream hlog
      rw [← List.append_assoc]
      exact ih hbetween hlog' (hnext.counted hset hstream hlog hcounted)

theorem Calls.tallied {scan : Scan} {answers : List (Option Token)} (hset : set.Sound)
    (hscan : scan.Sound set) (hcursor : scan.cursor = 0) (hempty : scan.emptySteps = 0)
    (h : Calls set (.ofScan scan) answers stream' events) : Tallied events := by
  have hlog : Accounted set scan.base (scans (.ofScan scan)) [] := by
    refine ⟨List.forall_mem_cons.mpr ⟨?_, by simp [ofScan]⟩, by simp⟩
    rw [stepsOf, List.countP_nil, Nat.zero_add]
    exact Scan.budget_le hscan
  have hcounted : Counted (.ofScan scan) [] := by
    refine ⟨.nil, List.forall_mem_cons.mpr ⟨hempty.symm, by simp [ofScan]⟩, by simp, ?_⟩
    simp [ofScan]
  exact (h.counted hset (ofScan_sound hscan hcursor) hlog hcounted).tallied

end Counted

end Stream

section Relax

variable {set : TableSet} {options : Options}

-- A span that is delegated above the limit is delegated above any higher one.
theorem Scan.delegated_relax {scan : Scan}
    (hdepth : set.options.maxDelegationDepth ≤ options.maxDelegationDepth)
    (hlt : scan.depth < set.options.maxDelegationDepth) (handle : Handle) (span : Span) :
    scan.delegated { set with options } handle span = scan.delegated set handle span := by
  have hlt' : scan.depth < options.maxDelegationDepth := Nat.lt_of_lt_of_le hlt hdepth
  rw [delegated, delegated, if_neg (Nat.not_le.mpr hlt), if_neg (Nat.not_le.mpr hlt')]
  rfl

theorem Scan.not_delegated_of_cut {scan : Scan} {state : State} {rule : Rule} {found : Match}
    (hnone : scan.delegates rule found = false) :
    ∀ segment ∈ scan.cut state rule found, segment.isDelegated = false := by
  intro segment hmem
  unfold cut at hmem
  unfold delegates at hnone
  split at hmem
  case h_1 => simp_all [Segment.isDelegated]
  case h_2 => simp_all
  case h_3 parts haction =>
    rw [haction] at hnone
    simpa using List.any_eq_false.mp hnone segment hmem
  case h_4 call haction =>
    cases segment with
    | unclaimed span => rfl
    | claimed part span =>
        obtain ⟨claim, hclaim, -⟩ := Segment.mem_partitionFrom hmem
        obtain ⟨⟨kind, own⟩, -, heq⟩ := List.mem_map.mp hclaim
        cases heq
        rfl

-- A step that meets no limit is one under higher limits.
theorem Scan.Steps.relax {scan next : Scan} {pieces : List Piece} {events : List Event}
    (hsteps : set.options.maxEmptySteps ≤ options.maxEmptySteps)
    (hdepth : set.options.maxDelegationDepth ≤ options.maxDelegationDepth)
    (h : scan.Steps set next pieces events)
    (hfree : ∀ event ∈ events, event.isLimited set.options = false) :
    scan.Steps { set with options } next pieces events := by
  cases h with
  | fail hfaces hrest => exact .fail ⟨hfaces.table, hfaces.place⟩ hrest
  | @take state rule found hfaces hspan =>
      have hfree' := hfree _ (List.mem_cons_self ..)
      have hpieces : (scan.cut state rule found).flatMap (scan.piecesOf { set with options }) =
          (scan.cut state rule found).flatMap (scan.piecesOf set) := by
        apply List.flatMap_congr
        intro segment hmem
        rcases segment with ⟨kind | handle, span⟩ | span
        · rfl
        · have hdelegates : scan.delegates rule found = true := by
            rw [← Bool.not_eq_false]
            intro hnone
            simpa [Segment.isDelegated] using not_delegated_of_cut hnone _ hmem
          have hdelegation := hfaces.isDelegation_iff.mpr ⟨hspan, hdelegates⟩
          simp only [Event.isLimited, hdelegation, Bool.true_and, Bool.or_eq_false_iff,
            decide_eq_false_iff_not, Nat.not_le] at hfree'
          exact delegated_relax hdepth hfree'.2 handle span
        · rfl
      rw [← hpieces]
      exact .take ⟨hfaces.table, hfaces.place⟩ hspan
  | stay hfaces hspan hlimit =>
      exact .stay ⟨hfaces.table, hfaces.place⟩ hspan (Nat.lt_of_lt_of_le hlimit hsteps)
  | force hfaces hspan hlimit hrest =>
      have hfree' := hfree _ (List.mem_cons_self ..)
      simp [Event.isLimited, hfaces.isStay_iff.mpr hspan, hlimit] at hfree'

namespace Stream

variable {stream stream' : Stream} {events : List Event}

theorem Moves.relax (hsteps : set.options.maxEmptySteps ≤ options.maxEmptySteps)
    (hdepth : set.options.maxDelegationDepth ≤ options.maxDelegationDepth)
    (h : Moves set stream stream' events)
    (hfree : ∀ event ∈ events, event.isLimited set.options = false) :
    Moves { set with options } stream stream' events := by
  cases h with
  | enter => exact .enter
  | leave hdone => exact .leave hdone
  | step hdone hstep => exact .step hdone (hstep.relax hsteps hdepth hfree)

theorem Next.relax {answer : Option Token}
    (hsteps : set.options.maxEmptySteps ≤ options.maxEmptySteps)
    (hdepth : set.options.maxDelegationDepth ≤ options.maxDelegationDepth)
    (h : Next set stream answer stream' events)
    (hfree : ∀ event ∈ events, event.isLimited set.options = false) :
    Next { set with options } stream answer stream' events := by
  induction h with
  | token => exact .token
  | finish hdone => exact .finish hdone
  | move hmove _ ih =>
      obtain ⟨hfirst, hrest⟩ := List.forall_mem_append.mp hfree
      exact .move (hmove.relax hsteps hdepth hfirst) (ih hrest)

theorem Calls.relax {answers : List (Option Token)}
    (hsteps : set.options.maxEmptySteps ≤ options.maxEmptySteps)
    (hdepth : set.options.maxDelegationDepth ≤ options.maxDelegationDepth)
    (h : Calls set stream answers stream' events)
    (hfree : ∀ event ∈ events, event.isLimited set.options = false) :
    Calls { set with options } stream answers stream' events := by
  induction h with
  | nil => exact .nil
  | cons hnext _ ih =>
      obtain ⟨hfirst, hrest⟩ := List.forall_mem_append.mp hfree
      exact .cons (hnext.relax hsteps hdepth hfirst) (ih hrest)

end Stream

end Relax

namespace TableSet

-- A run stays within its limits just if none of its steps meets one.
theorem Drains.quiet_iff {set : TableSet} (hset : set.Sound) {lexer : TableId} {text : Text}
    {tokens : List Token} {outer : Scan} {events : List Event}
    (h : set.Drains lexer text tokens outer events) (options : Options) :
    Quiet options events ↔ ∀ event ∈ events, event.isLimited options = false := by
  obtain ⟨stream, final, hopen, -, hcalls⟩ := h.exists_calls hset
  obtain ⟨table, htable, rfl⟩ := Option.map_eq_some_iff.mp hopen
  have hscan : (Scan.start lexer table.root text).Sound set :=
    Scan.fresh_sound hset htable (by simp) text 0 0
  exact (hcalls.tallied hset hscan rfl rfl).quiet_iff options

-- A run comes to its end; and if it stays within its limits, then under any higher ones it gives
-- the same tokens, takes the same steps, and stays within those as well.
theorem limits_unnoticed {grammars : List Grammar} {options : Options} {set : TableSet}
    (hbuild : build grammars options = .ok set) {lexer : TableId} {table : Table}
    (htable : set.table? lexer = some table) (text : Text) :
    ∃ tokens outer events, set.Drains lexer text tokens outer events ∧
      (Quiet options events → ∀ options' : Options,
        options.maxEmptySteps ≤ options'.maxEmptySteps →
        options.maxDelegationDepth ≤ options'.maxDelegationDepth →
        ∃ set', build grammars options' = .ok set' ∧
          set'.Drains lexer text tokens outer events ∧ Quiet options' events) := by
  have hbuilt := ((build_settles grammars options).of_ok hbuild).1
  obtain rfl := options_of_build hbuild
  obtain ⟨tokens, outer, events, -, hdrains, -, -⟩ := hbuilt.exists_drains htable text
  refine ⟨tokens, outer, events, hdrains, fun hquiet options' hsteps hdepth => ?_⟩
  have hbuild' := build_with hbuild options'
  have hbuilt' := ((build_settles grammars options').of_ok hbuild').1
  obtain ⟨stream, final, hopen, rfl, hcalls⟩ := hdrains.exists_calls hbuilt.sound
  have hfree := (hdrains.quiet_iff hbuilt.sound set.options).mp hquiet
  have hcalls' := hcalls.relax hsteps hdepth hfree
  exact ⟨_, hbuild', hbuilt'.drains_of_calls hopen hcalls', hquiet.mono hsteps hdepth⟩

-- The run delegates twice, as deep as the options allow, and has matches of no text.
theorem sample_limits_unnoticed : ∃ set table, build [.sample] .sample = .ok set ∧
    set.table? 0 = some table ∧
    ∃ tokens outer events, set.Drains 0 "ab <c<d>>12".toList tokens outer events ∧
      Quiet .sample events ∧ ∀ options' : Options,
        Options.sample.maxEmptySteps ≤ options'.maxEmptySteps →
        Options.sample.maxDelegationDepth ≤ options'.maxDelegationDepth →
        ∃ set', build [.sample] options' = .ok set' ∧
          set'.Drains 0 "ab <c<d>>12".toList tokens outer events ∧ Quiet options' events := by
  obtain ⟨set, table, hbuild, htable, -⟩ := Grammar.sample_builds
  obtain ⟨tokens, outer, events, hdrains, hrelax⟩ :=
    limits_unnoticed hbuild htable "ab <c<d>>12".toList
  have hrun : ((build [.sample] .sample).toOption.any fun set =>
      (set.tokens 0 "ab <c<d>>12".toList).toOption.any fun tokens =>
        (set.open? 0 "ab <c<d>>12".toList).any fun stream =>
          ((stream.calls set set.tracer (tokens.length + 1)).run []).2.all fun event =>
            !event.isLimited .sample) = true := by
    decide +kernel
  have hquiet : Quiet .sample events := by
    obtain ⟨stream, final, hopen, -, hcalls, -⟩ := hdrains.calls
    rw [hbuild, Except.toOption, Option.any_some, hdrains.whole, Except.toOption, Option.any_some,
      hopen, Option.any_some, hcalls, List.all_eq_true] at hrun
    have hset := sound_of_build hbuild
    refine (hdrains.quiet_iff hset .sample).mpr fun event hmem => ?_
    simpa using hrun event hmem
  exact ⟨set, table, hbuild, htable, tokens, outer, events, hdrains, hquiet, hrelax hquiet⟩

end TableSet

end StackLexer
