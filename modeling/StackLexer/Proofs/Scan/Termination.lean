import Mathlib.Algebra.Group.Nat.Defs
import StackLexer.Proofs.Scan.Calls
import StackLexer.Proofs.Scan.Sample

namespace StackLexer

-- The event is a step of the scan at the depth and the base of `scan`.
def Event.isStepOf (scan : Scan) : Event → Bool
  | .step other _ => other.depth == scan.depth && other.base == scan.base
  | .call _ => false

def stepsOf (scan : Scan) (log : List Event) : Nat := log.countP (Event.isStepOf scan)

theorem stepsOf_append (scan : Scan) (log log' : List Event) :
    stepsOf scan (log ++ log') = stepsOf scan log + stepsOf scan log' :=
  List.countP_append

theorem stepsOf_congr {scan other : Scan} (hdepth : other.depth = scan.depth)
    (hbase : other.base = scan.base) (log : List Event) : stepsOf other log = stepsOf scan log := by
  have hsame : Event.isStepOf other = Event.isStepOf scan := by
    funext event
    cases event <;> simp [Event.isStepOf, hdepth, hbase]
  rw [stepsOf, stepsOf, hsame]

namespace Scan.Steps

variable {set : TableSet} {scan next : Scan} {pieces : List Piece} {events : List Event}

theorem stepsOf_self (h : Steps set scan next pieces events) : stepsOf scan events = 1 := by
  obtain ⟨-, won, calls, -, rfl, hcalls⟩ := h.records
  have hnone : calls.countP (Event.isStepOf scan) = 0 := by
    refine List.countP_eq_zero.mpr fun event hmem => ?_
    obtain ⟨context, rfl⟩ := hcalls event hmem
    simp [Event.isStepOf]
  rw [stepsOf, List.countP_cons_of_pos (by simp [Event.isStepOf]), hnone]

theorem stepsOf_other (h : Steps set scan next pieces events) (other : Scan)
    (hother : other.depth = scan.depth → other.base ≠ scan.base) : stepsOf other events = 0 := by
  obtain ⟨-, won, calls, -, rfl, hcalls⟩ := h.records
  refine List.countP_eq_zero.mpr (List.forall_mem_cons.mpr ⟨?_, fun event hmem => ?_⟩)
  · simp only [Event.isStepOf, Bool.and_eq_true, beq_iff_eq]
    rintro ⟨hdepth, hbase⟩
    exact hother hdepth.symm hbase.symm
  · obtain ⟨context, rfl⟩ := hcalls event hmem
    simp [Event.isStepOf]

end Scan.Steps

namespace Stream

-- The scans of the levels, the innermost first.
def scans (stream : Stream) : List Scan := stream.active.scan :: stream.waiting.map Level.scan

-- The scan is under way, perhaps further on.
def Open (scans : List Scan) (scan : Scan) : Prop :=
  ∃ current ∈ scans, current.depth = scan.depth ∧ current.base = scan.base ∧
    current.input = scan.input

-- The scan has ended at or before the offset `start`, and took no more steps than it may.
structure Closed (set : TableSet) (start : Nat) (scans : List Scan) (log : List Event)
    (scan : Scan) : Prop where
  apart : ∀ current ∈ scans, current.depth = scan.depth → current.base ≠ scan.base
  stop : scan.base + Text.size scan.input ≤ start
  steps : stepsOf scan log ≤ scan.input.length * (set.options.maxEmptySteps + 1)

-- The steps in a log are accounted for: a scan under way can take what its text still allows, and
-- every scan that has taken a step is under way or has ended.
structure Accounted (set : TableSet) (start : Nat) (scans : List Scan) (log : List Event) :
    Prop where
  budget : ∀ scan ∈ scans, stepsOf scan log + scan.budget set ≤
    scan.input.length * (set.options.maxEmptySteps + 1)
  taken : ∀ scan won, .step scan won ∈ log → scan.Sound set ∧ scan.isDone = false ∧
    (Open scans scan ∨ Closed set start scans log scan)

theorem Accounted.mono {set : TableSet} {start start' : Nat} {scans : List Scan}
    {log : List Event} (h : Accounted set start scans log) (hle : start ≤ start') :
    Accounted set start' scans log where
  budget := h.budget
  taken scan won hmem := by
    obtain ⟨hsound, hdone, hopen | hclosed⟩ := h.taken scan won hmem
    · exact ⟨hsound, hdone, .inl hopen⟩
    · exact ⟨hsound, hdone, .inr ⟨hclosed.apart, Nat.le_trans hclosed.stop hle, hclosed.steps⟩⟩

section Accounted

variable {set : TableSet} {stream stream' : Stream} {events log : List Event} {start : Nat}

theorem depth_lt {level : Level} {waiting : List Level}
    (h : Level.Chain set start level waiting) :
    ∀ outer ∈ waiting.map Level.scan, outer.depth < level.scan.depth := by
  induction waiting generalizing start level with
  | nil => simp
  | cons outer waiting ih =>
      obtain ⟨-, hdepth, -, -, hrest⟩ := h
      have houter := ih hrest
      refine List.forall_mem_cons.mpr ⟨by omega, fun scan hmem => ?_⟩
      have hlt := houter scan hmem
      omega

theorem input_ne_nil {scan : Scan} (hdone : scan.isDone = false) : scan.input ≠ [] := by
  intro hnil
  simp [Scan.isDone, hnil] at hdone

-- A scan handed out as a piece has taken no step, as nothing that took one starts where it does.
theorem Accounted.apart {scan inner : Scan} {rest : List Piece} {waiting : List Level}
    (hstream : Sound set start ⟨⟨scan, .nested inner :: rest⟩, waiting⟩)
    (hlog : Accounted set start (scan :: waiting.map Level.scan) log) :
    ∀ other won, .step other won ∈ log → inner.depth = other.depth → inner.base ≠ other.base := by
  obtain ⟨hbase, -, ⟨-, -, hdepth, -⟩, -⟩ := hstream.active.cons
  change inner.base = start at hbase
  have hdepths := depth_lt hstream
  intro other won hmem hsame hbases
  obtain ⟨-, hdone, hcase⟩ := hlog.taken other won hmem
  rcases hcase with ⟨current, hcurrent, hcurrentDepth, -, -⟩ | hclosed
  · have hle : current.depth ≤ scan.depth := by
      rcases List.mem_cons.mp hcurrent with rfl | hcurrent
      · exact Nat.le_refl _
      · exact Nat.le_of_lt (hdepths current hcurrent)
    omega
  · have hstop := hclosed.stop
    have hpos := Text.size_pos (input_ne_nil hdone)
    omega

theorem accounted_enter {scan inner : Scan} {rest : List Piece} {waiting : List Level}
    (hstream : Sound set start ⟨⟨scan, .nested inner :: rest⟩, waiting⟩)
    (hlog : Accounted set start (scan :: waiting.map Level.scan) log) :
    Accounted set start (inner :: scan :: waiting.map Level.scan) log := by
  obtain ⟨-, -, ⟨hinner, -, -, -⟩, -⟩ := hstream.active.cons
  have hfresh := hlog.apart hstream
  constructor
  · refine List.forall_mem_cons.mpr ⟨?_, hlog.budget⟩
    have hnone : stepsOf inner log = 0 := by
      refine List.countP_eq_zero.mpr fun event hmem => ?_
      cases event with
      | call context => simp [Event.isStepOf]
      | step other won =>
          simp only [Event.isStepOf, Bool.and_eq_true, beq_iff_eq]
          rintro ⟨hsame, hbases⟩
          exact hfresh other won hmem hsame.symm hbases.symm
    rw [hnone, Nat.zero_add]
    exact Scan.budget_le hinner
  · intro other won hmem
    obtain ⟨hsound, hdone, hcase⟩ := hlog.taken other won hmem
    refine ⟨hsound, hdone, ?_⟩
    rcases hcase with ⟨current, hcurrent, hsame⟩ | hclosed
    · exact .inl ⟨current, List.mem_cons_of_mem _ hcurrent, hsame⟩
    · exact .inr ⟨List.forall_mem_cons.mpr ⟨hfresh other won hmem, hclosed.apart⟩, hclosed.stop,
        hclosed.steps⟩

-- A scan that is left has ended.
theorem accounted_leave {scan : Scan} {level : Level} {waiting : List Level}
    (hstream : Sound set start ⟨⟨scan, []⟩, level :: waiting⟩) (hdone : scan.isDone = true)
    (hlog : Accounted set start (scan :: level.scan :: waiting.map Level.scan) log) :
    Accounted set start (level.scan :: waiting.map Level.scan) log := by
  have hscan : scan.Sound set := hstream.active.scan
  have hdepths := depth_lt hstream
  have hend : scan.base + Text.size scan.input = start := by
    have hoffset : scan.offset = start := hstream.active.idle
    rw [← hoffset, Scan.offset, hscan.cursor_eq hdone]
  obtain ⟨hbudget, hrest⟩ := List.forall_mem_cons.mp hlog.budget
  refine ⟨hrest, fun other won hmem => ?_⟩
  obtain ⟨hsound, hopen, hcase⟩ := hlog.taken other won hmem
  refine ⟨hsound, hopen, ?_⟩
  rcases hcase with ⟨current, hcurrent, hdepth, hbase, hinput⟩ | hclosed
  · rcases List.mem_cons.mp hcurrent with rfl | hcurrent
    · refine .inr ⟨fun outer hmem hsame => ?_, ?_, ?_⟩
      · have hlt : outer.depth < current.depth := hdepths outer hmem
        omega
      · have hstop : other.base + Text.size other.input = start := by rw [← hbase, ← hinput, hend]
        exact Nat.le_of_eq hstop
      · rw [← stepsOf_congr hdepth hbase, ← hinput]
        omega
    · exact .inl ⟨current, hcurrent, hdepth, hbase, hinput⟩
  · exact .inr ⟨(List.forall_mem_cons.mp hclosed.apart).2, hclosed.stop, hclosed.steps⟩

theorem accounted_step (hset : set.Sound) {scan next : Scan} {pieces : List Piece}
    {waiting : List Level} (hstream : Sound set start ⟨⟨scan, []⟩, waiting⟩)
    (hdone : scan.isDone = false) (hstep : scan.Steps set next pieces events)
    (hlog : Accounted set start (scan :: waiting.map Level.scan) log) :
    Accounted set start (next :: waiting.map Level.scan) (log ++ events) := by
  have hscan : scan.Sound set := hstream.active.scan
  obtain ⟨read, hpasses, -, -⟩ := hstep.passes hset hscan
  have hbudget := hstep.budget_lt hset hscan hdone
  have hself := hstep.stepsOf_self
  have hdepths := depth_lt hstream
  constructor
  · refine List.forall_mem_cons.mpr ⟨?_, fun outer hmem => ?_⟩
    · have hscan := hlog.budget scan (by simp)
      rw [stepsOf_append, stepsOf_congr hpasses.depth hpasses.base,
        stepsOf_congr hpasses.depth hpasses.base, hself, hpasses.input]
      omega
    · have houter := hlog.budget outer (by simp [hmem])
      have hlt : outer.depth < scan.depth := hdepths outer hmem
      have hother := hstep.stepsOf_other outer (fun hdepth => by omega)
      rw [stepsOf_append, hother]
      exact houter
  · intro other won hmem
    rcases List.mem_append.mp hmem with hmem | hmem
    · obtain ⟨hsound, hopen, hcase⟩ := hlog.taken other won hmem
      refine ⟨hsound, hopen, ?_⟩
      rcases hcase with ⟨current, hcurrent, hdepth, hbase, hinput⟩ | hclosed
      · refine .inl ?_
        rcases List.mem_cons.mp hcurrent with rfl | hcurrent
        · exact ⟨next, by simp, hpasses.depth.trans hdepth, hpasses.base.trans hbase,
            hpasses.input.trans hinput⟩
        · exact ⟨current, by simp [hcurrent], hdepth, hbase, hinput⟩
      · refine .inr ⟨?_, hclosed.stop, ?_⟩
        · obtain ⟨hfirst, hrest⟩ := List.forall_mem_cons.mp hclosed.apart
          refine List.forall_mem_cons.mpr ⟨?_, hrest⟩
          rw [hpasses.depth, hpasses.base]
          exact hfirst
        · have hapart := hclosed.apart scan (by simp)
          have hother := hstep.stepsOf_other other
            (fun hdepth => (hapart hdepth.symm).symm)
          rw [stepsOf_append, hother]
          exact hclosed.steps
    · obtain ⟨rfl, -⟩ := hstep.of_mem hmem
      exact ⟨hscan, hdone, .inl ⟨next, by simp, hpasses.depth, hpasses.base, hpasses.input⟩⟩

theorem Moves.accounted (hset : set.Sound) (hstream : stream.Sound set start)
    (h : Moves set stream stream' events) (hlog : Accounted set start stream.scans log) :
    Accounted set start stream'.scans (log ++ events) := by
  cases h with
  | enter =>
      rw [List.append_nil]
      exact accounted_enter hstream hlog
  | leave hdone =>
      rw [List.append_nil]
      exact accounted_leave hstream hdone hlog
  | step hdone hstep => exact accounted_step hset hstream hdone hstep hlog

theorem Next.accounted {answer : Option Token} (hset : set.Sound)
    (hstream : stream.Sound set start) (h : Next set stream answer stream' events)
    (hlog : Accounted set start stream.scans log) :
    ∃ start', stream'.Sound set start' ∧ Accounted set start' stream'.scans (log ++ events) := by
  induction h generalizing log with
  | @token scan made rest waiting =>
      obtain ⟨-, -, -, hlevel⟩ := hstream.active.cons
      refine ⟨_, hstream.of_active hlevel rfl rfl rfl, ?_⟩
      rw [List.append_nil]
      exact hlog.mono (Nat.le_add_right _ _)
  | finish =>
      rw [List.append_nil]
      exact ⟨start, hstream, hlog⟩
  | @move stream between stream' answer events events' hmove _ ih =>
      rw [← List.append_assoc]
      exact ih (hmove.sound hset hstream) (hmove.accounted hset hstream hlog)

theorem Calls.accounted {answers : List (Option Token)} (hset : set.Sound)
    (hstream : stream.Sound set start) (h : Calls set stream answers stream' events)
    (hlog : Accounted set start stream.scans log) :
    ∃ start', stream'.Sound set start' ∧ Accounted set start' stream'.scans (log ++ events) := by
  induction h generalizing log start with
  | nil =>
      rw [List.append_nil]
      exact ⟨start, hstream, hlog⟩
  | cons hnext _ ih =>
      obtain ⟨start', hbetween, hlog'⟩ := hnext.accounted hset hstream hlog
      rw [← List.append_assoc]
      exact ih hbetween hlog'

end Accounted

-- What holds of a scan that takes a step in a run with this log. Its steps are bounded by its text,
-- its count of matches of no text goes at most one past the limit before it is set back, and the
-- step comes back with no scan nested too deep.
structure Bounded (set : TableSet) (log : List Event) (scan : Scan) : Prop where
  steps : stepsOf scan log ≤ scan.input.length * (set.options.maxEmptySteps + 1)
  counter : ∀ rule found, (scan.follow rule found).emptySteps ≤ set.options.maxEmptySteps + 1
  word : set.options.maxEmptySteps < 2 ^ 64 - 1 →
    ∀ rule found, (scan.follow rule found).emptySteps < 2 ^ 64
  returns : ∃ next pieces, (scan.step set set.plainHost).run = .ok (next, pieces) ∧
    next.emptySteps ≤ set.options.maxEmptySteps ∧
    ∀ inner, .nested inner ∈ pieces → inner.depth ≤ set.options.maxDelegationDepth

theorem Accounted.bounded {set : TableSet} {start : Nat} {scans : List Scan} {log : List Event}
    (hset : set.Sound) (h : Accounted set start scans log) {scan : Scan} {won : Option Rule}
    (hmem : .step scan won ∈ log) : Bounded set log scan := by
  obtain ⟨hscan, hdone, hcase⟩ := h.taken scan won hmem
  have hlimit := hscan.emptySteps
  have hcounter : ∀ rule found,
      (scan.follow rule found).emptySteps ≤ set.options.maxEmptySteps + 1 := by
    intro rule found
    simp only [Scan.follow]
    split <;> omega
  obtain ⟨next, pieces, events, hstep, hrun⟩ := Scan.step_ok hset hscan hdone
  obtain ⟨-, -, -, hpieces⟩ := hstep.passes hset hscan
  refine ⟨?_, hcounter, fun hword rule found => ?_, next, pieces, hrun set.plainReading,
    (hstep.sound hset hscan).emptySteps, fun inner hinner => ?_⟩
  · rcases hcase with ⟨current, hcurrent, hdepth, hbase, hinput⟩ | hclosed
    · have hbudget := h.budget current hcurrent
      rw [← stepsOf_congr hdepth hbase, ← hinput]
      omega
    · exact hclosed.steps
  · have hle := hcounter rule found
    omega
  · obtain ⟨-, -, hdepth, hlt⟩ := hpieces _ hinner
    omega

-- Every call comes back, and the calls come to an end. No two scans of a run that have taken a step
-- share depth and base, and the steps that a scan has taken and those that it can still take are
-- never more than its text allows.
theorem drain_terminates {grammars : List Grammar} {options : Options} {set : TableSet}
    (hbuild : TableSet.build grammars options = .ok set) {lexer : TableId} {table : Table}
    (htable : set.table? lexer = some table) {state? : Option StateId}
    (hstate : ∀ state ∈ state?, state < table.states.length) (text : Text) (base depth : Nat) :
    (∀ count, ∃ answers stream log,
      (calls set set.tracer count
        (.ofScan (.fresh lexer table.root state? text base depth))).run.run [] =
          (.ok (answers, stream), log) ∧
      ∀ scan won, .step scan won ∈ log → Bounded set log scan) ∧
    ∃ (tokens : List Token) (stream : Stream), tokens.length ≤ text.length ∧ ∀ extra,
      (calls set set.plainHost (tokens.length + 1 + extra)
        (.ofScan (.fresh lexer table.root state? text base depth))).run =
          .ok (tokens.map some ++ List.replicate (extra + 1) none, stream) := by
  have hset := TableSet.sound_of_build hbuild
  have hfresh := Scan.fresh_sound hset htable hstate text base depth
  have hstart : Sound set base (.ofScan (.fresh lexer table.root state? text base depth)) :=
    ofScan_sound hfresh rfl
  have hlog : Accounted set base
      (scans (.ofScan (.fresh lexer table.root state? text base depth))) [] := by
    refine ⟨List.forall_mem_cons.mpr ⟨?_, by simp [ofScan]⟩, by simp⟩
    rw [stepsOf, List.countP_nil, Nat.zero_add]
    exact Scan.budget_le hfresh
  constructor
  · intro count
    obtain ⟨answers, stream, events, -, hcalls, hrun⟩ := calls_ok hset hstart count
    obtain ⟨start, -, haccounted⟩ := hcalls.accounted hset hstart hlog
    refine ⟨answers, stream, [] ++ events, hrun set.tracerReading [], fun scan won hmem => ?_⟩
    exact haccounted.bounded hset hmem
  · obtain ⟨tokens, scan, events, hcovers, -, -, hrun⟩ := drain_ok hset hstart
    rw [left_ofScan rfl] at hcovers
    refine ⟨tokens, ⟨⟨scan, []⟩, []⟩, hcovers.length_le, fun extra => ?_⟩
    have hcount : tokens.length + 1 + extra = extra + 1 + tokens.length := by omega
    rw [hcount]
    exact hrun set.plainReading extra

theorem sample_drain_terminates : ∃ set table, TableSet.build [.sample] .sample = .ok set ∧
    set.table? 0 = some table ∧ (∀ state ∈ some 1, state < table.states.length) ∧
    (∀ count, ∃ answers stream log,
      (calls set set.tracer count
        (.ofScan (.fresh 0 table.root (some 1) "a !<<<b>>>".toList 0 0))).run.run [] =
          (.ok (answers, stream), log) ∧
      ∀ scan won, .step scan won ∈ log → Bounded set log scan) ∧
    ∃ (tokens : List Token) (stream : Stream), tokens.length ≤ "a !<<<b>>>".toList.length ∧ ∀ extra,
      (calls set set.plainHost (tokens.length + 1 + extra)
        (.ofScan (.fresh 0 table.root (some 1) "a !<<<b>>>".toList 0 0))).run =
          .ok (tokens.map some ++ List.replicate (extra + 1) none, stream) := by
  obtain ⟨set, table, hbuild, htable, hstates⟩ := Grammar.sample_builds
  have hstate : ∀ state ∈ some 1, state < table.states.length := by simpa using hstates
  exact ⟨set, table, hbuild, htable, hstate, drain_terminates hbuild htable hstate _ 0 0⟩

end Stream

end StackLexer
