import StackLexer.Proofs.Scan.Progress

namespace StackLexer

-- A level whose pieces and cursor go on from the offset `start` of the outermost input.
structure Level.Sound (set : TableSet) (start : Nat) (level : Level) : Prop where
  scan : level.scan.Sound set
  base : level.scan.base ≤ start
  fills : ∃ text, Fills start level.pending text ∧ level.scan.offset = start + Text.size text
  pieces : ∀ piece ∈ level.pending, piece.Sound set level.scan.depth

-- Levels from the active one outwards. Each goes on where the text of the one inside of it ends.
def Level.Chain (set : TableSet) : Nat → Level → List Level → Prop
  | start, level, [] => level.Sound set start
  | start, level, outer :: waiting =>
      level.Sound set start ∧ level.scan.depth = outer.scan.depth + 1 ∧
        outer.scan.depth < set.options.maxDelegationDepth ∧
        outer.scan.base ≤ level.scan.base ∧
          Chain set (level.scan.base + Text.size level.scan.input) outer waiting

-- The text that a level has not handed out yet.
def Level.left (level : Level) : Text := level.pending.flatMap Piece.text ++ level.scan.rest

theorem Fills.eq_flatMap {start : Nat} {pieces : List Piece} {text : Text}
    (h : Fills start pieces text) : text = pieces.flatMap Piece.text := by
  induction pieces generalizing start text with
  | nil => exact h
  | cons piece pieces ih =>
      obtain ⟨-, -, after, rfl, hrest⟩ := h
      rw [List.flatMap_cons, ih hrest]

namespace Level

variable {set : TableSet} {start : Nat} {scan : Scan} {level level' : Level} {waiting : List Level}

theorem Sound.idle (h : Level.Sound set start ⟨scan, []⟩) : scan.offset = start := by
  obtain ⟨text, rfl, hoffset⟩ := h.fills
  exact hoffset

-- The first pending piece begins where the level goes on.
theorem Sound.cons {piece : Piece} {rest : List Piece}
    (h : Level.Sound set start ⟨scan, piece :: rest⟩) :
    piece.start = start ∧ piece.text ≠ [] ∧ piece.Sound set scan.depth ∧
      Level.Sound set (start + Text.size piece.text) ⟨scan, rest⟩ := by
  obtain ⟨text, ⟨hstart, hne, after, rfl, hrest⟩, hoffset⟩ := h.fills
  obtain ⟨hpiece, hpieces⟩ := List.forall_mem_cons.mp h.pieces
  refine ⟨hstart, hne, hpiece, h.scan, Nat.le_add_right_of_le h.base, ⟨after, hrest, ?_⟩, hpieces⟩
  rw [hoffset, Text.size_append, Nat.add_assoc]

theorem Sound.left_size (h : level.Sound set start) :
    start + Text.size level.left = level.scan.base + Text.size level.scan.input := by
  obtain ⟨text, hfills, hoffset⟩ := h.fills
  obtain ⟨read, hinput, hcursor⟩ := h.scan.rest_eq
  have hsize := congrArg Text.size hinput
  rw [Text.size_append, hcursor] at hsize
  rw [Level.left, ← hfills.eq_flatMap, Text.size_append, hsize]
  unfold Scan.offset at hoffset
  omega

theorem sound_of_nested {inner : Scan} {depth : Nat} (hinner : (Piece.nested inner).Sound set depth)
    (hbase : inner.base = start) : Level.Sound set start ⟨inner, []⟩ := by
  obtain ⟨hsound, hcursor, -, -⟩ := hinner
  refine ⟨hsound, Nat.le_of_eq hbase, ⟨[], rfl, ?_⟩, by simp⟩
  rw [Scan.offset, hbase, hcursor]
  rfl

-- A step whose pieces are now pending.
theorem sound_of_steps (hset : set.Sound) {next : Scan} {pieces : List Piece} {events : List Event}
    (h : Level.Sound set start ⟨scan, []⟩) (hstep : scan.Steps set next pieces events) :
    Level.Sound set start ⟨next, pieces⟩ := by
  obtain ⟨read, hpasses, hfills, hpieces⟩ := hstep.passes hset h.scan
  have hstart := h.idle
  refine ⟨hstep.sound hset h.scan, hpasses.base ▸ h.base, ⟨read, hstart ▸ hfills, ?_⟩, ?_⟩
  · rw [hpasses.offset, hstart]
  · rw [hpasses.depth]
    exact hpieces

theorem Chain.active (h : Chain set start level waiting) : level.Sound set start := by
  cases waiting with
  | nil => exact h
  | cons => exact h.1

-- The levels around the active one do not see where in its text it is.
theorem Chain.of_active {start' : Nat} (h : Chain set start level waiting)
    (hlevel : level'.Sound set start') (hdepth : level'.scan.depth = level.scan.depth)
    (hbase : level'.scan.base = level.scan.base) (hinput : level'.scan.input = level.scan.input) :
    Chain set start' level' waiting := by
  cases waiting with
  | nil => exact hlevel
  | cons outer waiting =>
      obtain ⟨-, hinner, hlimit, houter, hrest⟩ := h
      refine ⟨hlevel, hdepth ▸ hinner, hlimit, hbase ▸ houter, ?_⟩
      rw [hbase, hinput]
      exact hrest

end Level

namespace Stream

variable {set : TableSet} {stream stream' : Stream} {events : List Event} {start : Nat}

def Sound (set : TableSet) (start : Nat) (stream : Stream) : Prop :=
  Level.Chain set start stream.active stream.waiting

def left (stream : Stream) : Text := stream.active.left ++ stream.waiting.flatMap Level.left

-- A turn of the loop that hands out nothing.
inductive Moves (set : TableSet) : Stream → Stream → List Event → Prop where
  | enter {scan inner rest waiting} :
      Moves set ⟨⟨scan, .nested inner :: rest⟩, waiting⟩ ⟨⟨inner, []⟩, ⟨scan, rest⟩ :: waiting⟩ []
  | leave {scan level waiting} (hdone : scan.isDone = true) :
      Moves set ⟨⟨scan, []⟩, level :: waiting⟩ ⟨level, waiting⟩ []
  | step {scan next pieces events waiting} (hdone : scan.isDone = false)
      (hstep : scan.Steps set next pieces events) :
      Moves set ⟨⟨scan, []⟩, waiting⟩ ⟨⟨next, pieces⟩, waiting⟩ events

-- A call, from its first turn to the one that answers.
inductive Next (set : TableSet) : Stream → Option Token → Stream → List Event → Prop where
  | token {scan token rest waiting} :
      Next set ⟨⟨scan, .token token :: rest⟩, waiting⟩ (some token) ⟨⟨scan, rest⟩, waiting⟩ []
  | finish {scan} (hdone : scan.isDone = true) :
      Next set ⟨⟨scan, []⟩, []⟩ none ⟨⟨scan, []⟩, []⟩ []
  | move {stream between stream' answer events events'} (hmove : Moves set stream between events)
      (hnext : Next set between answer stream' events') :
      Next set stream answer stream' (events ++ events')

section Moves

theorem Moves.sound (hset : set.Sound) (hstream : stream.Sound set start)
    (h : Moves set stream stream' events) : stream'.Sound set start := by
  cases h with
  | @enter scan inner rest waiting =>
      obtain ⟨hbase, -, hinner, hrest⟩ := hstream.active.cons
      change inner.base = start at hbase
      refine ⟨Level.sound_of_nested hinner hbase, hinner.2.2.1, hinner.2.2.2,
        hbase ▸ hstream.active.base, ?_⟩
      rw [hbase]
      exact hstream.of_active hrest rfl rfl rfl
  | @leave scan level waiting hdone =>
      obtain ⟨hlevel, -, -, -, hrest⟩ := hstream
      have hend := hlevel.scan.cursor_eq hdone
      have hoffset := hlevel.idle
      rw [Scan.offset, hend] at hoffset
      exact hoffset ▸ hrest
  | @step scan next pieces events waiting hdone hstep =>
      obtain ⟨read, hpasses, -, -⟩ := hstep.passes hset hstream.active.scan
      exact hstream.of_active (Level.sound_of_steps hset hstream.active hstep) hpasses.depth
        hpasses.base hpasses.input

theorem Moves.left_eq (hset : set.Sound) (hstream : stream.Sound set start)
    (h : Moves set stream stream' events) : stream'.left = stream.left := by
  cases h with
  | @enter scan inner rest waiting =>
      obtain ⟨-, -, ⟨-, hcursor, -, -⟩, -⟩ := hstream.active.cons
      simp [left, Level.left, Piece.text, Scan.rest_of_start hcursor]
  | @leave scan level waiting hdone =>
      have hrest := hstream.active.scan.isDone_iff.mp hdone
      simp [left, Level.left, hrest]
  | @step scan next pieces events waiting hdone hstep =>
      obtain ⟨read, hpasses, hfills, -⟩ := hstep.passes hset hstream.active.scan
      simp [left, Level.left, hpasses.rest, hfills.eq_flatMap]

-- The outer scan is the same whatever is pending at the active level.
theorem outer_eq (scan : Scan) (pending pending' : List Piece) (waiting : List Level) :
    outer ⟨⟨scan, pending⟩, waiting⟩ = outer ⟨⟨scan, pending'⟩, waiting⟩ := by
  cases waiting <;> rfl

-- The outer scan goes on in its text, or waits for the levels inside of it.
theorem Moves.outer (hset : set.Sound) (hstream : stream.Sound set start)
    (h : Moves set stream stream' events) : ∃ read, stream.outer.Passes stream'.outer read := by
  cases h with
  | @enter scan inner rest waiting =>
      refine ⟨[], ?_⟩
      rw [outer_eq scan _ rest]
      unfold Stream.outer
      rw [List.getLastD_cons]
      exact .refl _
  | @leave scan level waiting hdone =>
      refine ⟨[], ?_⟩
      unfold Stream.outer
      rw [List.getLastD_cons]
      exact .refl _
  | @step scan next pieces events waiting hdone hstep =>
      unfold Stream.outer
      cases waiting with
      | nil =>
          obtain ⟨read, hpasses, -, -⟩ := hstep.passes hset hstream.active.scan
          exact ⟨read, hpasses⟩
      | cons level waiting => exact ⟨[], .refl _⟩

-- How many turns can come before an answer. On its way down every level makes one start, one step
-- that makes pieces and as many that make none as the options allow; on the way up it ends.
def turns (set : TableSet) (level : Level) (waiting : List Level) : Nat :=
  let below := (set.options.maxDelegationDepth - level.scan.depth) *
    (set.options.maxEmptySteps + 2)
  if level.pending.isEmpty then
    if level.scan.isDone then
      match waiting with
      | [] => 1
      | outer :: waiting => 1 + turns set outer waiting
    else set.options.maxEmptySteps - level.scan.emptySteps + 2 + below
  else 1 + below

theorem turns_pending (set : TableSet) (scan : Scan) (piece : Piece) (rest : List Piece)
    (waiting : List Level) :
    turns set ⟨scan, piece :: rest⟩ waiting =
      1 + (set.options.maxDelegationDepth - scan.depth) * (set.options.maxEmptySteps + 2) := by
  cases waiting <;> rfl

theorem turns_waiting {scan : Scan} (hdone : scan.isDone = false) (waiting : List Level) :
    turns set ⟨scan, []⟩ waiting = set.options.maxEmptySteps - scan.emptySteps + 2 +
      (set.options.maxDelegationDepth - scan.depth) * (set.options.maxEmptySteps + 2) := by
  cases waiting <;> simp [turns, hdone]

theorem Moves.turns_lt (hset : set.Sound) (hstream : stream.Sound set start)
    (h : Moves set stream stream' events) :
    turns set stream'.active stream'.waiting < turns set stream.active stream.waiting := by
  cases h with
  | @enter scan inner rest waiting =>
      obtain ⟨-, hne, ⟨hsound, hcursor, hdepth, hlimit⟩, -⟩ := hstream.active.cons
      have hdone : inner.isDone = false := by
        rw [← Bool.not_eq_true, hsound.isDone_iff, Scan.rest_of_start hcursor]
        exact hne
      have hroom : set.options.maxDelegationDepth - scan.depth =
          set.options.maxDelegationDepth - inner.depth + 1 := by omega
      rw [turns_pending, turns_waiting hdone, hroom, Nat.succ_mul]
      omega
  | @leave scan level waiting hdone =>
      simp only [turns, hdone]
      simp
  | @step scan next pieces events waiting hdone hstep =>
      have hscan : scan.Sound set := hstream.active.scan
      have hsound := hstep.sound hset hscan
      have hlimit := hsound.emptySteps
      obtain ⟨read, hpasses, -, -⟩ := hstep.passes hset hscan
      have hdepth := hpasses.depth
      rw [turns_waiting hdone]
      rcases hstep.progress hset hscan with ⟨-, -, hne⟩ | ⟨hrest, hempty, rfl⟩
      · obtain ⟨piece, pieces, rfl⟩ := List.exists_cons_of_ne_nil hne
        rw [turns_pending, hdepth]
        omega
      · have hdone' : next.isDone = false := by
          rw [← Bool.not_eq_true, hsound.isDone_iff, hrest, ← hscan.isDone_iff, hdone]
          simp
        rw [turns_waiting hdone', hdepth]
        omega

end Moves

section Turns

variable {level : Level} {waiting : List Level}

theorem turns_pos (set : TableSet) (level : Level) (waiting : List Level) :
    0 < turns set level waiting := by
  cases waiting with
  | nil =>
      simp only [turns]
      split
      · split <;> omega
      · omega
  | cons outer waiting =>
      simp only [turns]
      split
      · split <;> omega
      · omega

theorem turns_le (set : TableSet) (level : Level) (waiting : List Level) :
    turns set level waiting ≤ waiting.length +
      (set.options.maxDelegationDepth + 1) * (set.options.maxEmptySteps + 2) := by
  have hbelow : ∀ depth : Nat, (set.options.maxDelegationDepth - depth) *
      (set.options.maxEmptySteps + 2) ≤
        set.options.maxDelegationDepth * (set.options.maxEmptySteps + 2) :=
    fun depth => Nat.mul_le_mul_right _ (Nat.sub_le _ _)
  rw [Nat.succ_mul]
  induction waiting generalizing level with
  | nil =>
      have hroom := hbelow level.scan.depth
      simp only [turns]
      split
      · split <;> omega
      · omega
  | cons outer waiting ih =>
      have hroom := hbelow level.scan.depth
      have houter := ih outer
      simp only [turns, List.length_cons]
      split
      · split <;> omega
      · omega

theorem waiting_le {start : Nat} (h : Level.Chain set start level waiting) :
    waiting.length ≤ set.options.maxDelegationDepth := by
  have hdepth : ∀ (waiting : List Level) (start : Nat) (level : Level),
      Level.Chain set start level waiting → waiting.length ≤ level.scan.depth := by
    intro waiting
    induction waiting with
    | nil => exact fun _ _ _ => Nat.zero_le _
    | cons outer waiting ih =>
        rintro start level ⟨-, hinner, -, -, hrest⟩
        have houter := ih _ _ hrest
        rw [List.length_cons]
        omega
  cases waiting with
  | nil => exact Nat.zero_le _
  | cons outer waiting =>
      have hlevel := hdepth _ _ _ h
      obtain ⟨-, hinner, hlimit, -, -⟩ := h
      omega

theorem turns_le_patience (hstream : stream.Sound set start) :
    turns set stream.active stream.waiting ≤ patience set.options := by
  have hturns := turns_le set stream.active stream.waiting
  have hwaiting := waiting_le hstream
  have houter : (set.options.maxDelegationDepth + 2) * (set.options.maxEmptySteps + 5) =
      (set.options.maxDelegationDepth + 1) * (set.options.maxEmptySteps + 5) +
        (set.options.maxEmptySteps + 5) := Nat.succ_mul _ _
  have hinner : (set.options.maxDelegationDepth + 1) * (set.options.maxEmptySteps + 5) =
      (set.options.maxDelegationDepth + 1) * (set.options.maxEmptySteps + 2) +
        (set.options.maxDelegationDepth + 1) * 3 := Nat.mul_add _ _ 3
  unfold patience
  omega

end Turns

-- What is left ends where the text of the outer scan ends.
theorem Sound.left_size (hstream : stream.Sound set start) :
    start + Text.size stream.left = stream.outer.base + Text.size stream.outer.input := by
  obtain ⟨level, waiting⟩ := stream
  induction waiting generalizing start level with
  | nil =>
      have hlevel := Level.Sound.left_size hstream
      simpa [left, Stream.outer] using hlevel
  | cons outer waiting ih =>
      obtain ⟨hlevel, -, -, -, hrest⟩ := hstream
      have hinner : start + Text.size level.left = level.scan.base + Text.size level.scan.input :=
        hlevel.left_size
      have houter := ih outer hrest
      simp only [left, Stream.outer, List.flatMap_cons, List.getLastD_cons,
        Text.size_append] at houter ⊢
      omega

theorem Sound.base_le (hstream : stream.Sound set start) : stream.outer.base ≤ start := by
  obtain ⟨level, waiting⟩ := stream
  have hlevel := hstream.active.base
  suffices houter : ∀ (waiting : List Level) (start : Nat) (level : Level),
      Level.Chain set start level waiting →
        (waiting.getLastD level).scan.base ≤ level.scan.base from
    Nat.le_trans (houter waiting start level hstream) hlevel
  intro waiting
  induction waiting with
  | nil => exact fun _ _ _ => Nat.le_refl _
  | cons outer waiting ih =>
      rintro start level ⟨-, -, -, hbase, hrest⟩
      rw [List.getLastD_cons]
      exact Nat.le_trans (ih _ _ hrest) hbase

theorem ofScan_sound {scan : Scan} (hscan : scan.Sound set) (hcursor : scan.cursor = 0) :
    (ofScan scan).Sound set scan.base := by
  refine ⟨hscan, Nat.le_refl _, ⟨[], rfl, ?_⟩, by simp [ofScan]⟩
  change scan.base + scan.cursor = _
  rw [hcursor]
  rfl

theorem left_ofScan {scan : Scan} (hcursor : scan.cursor = 0) :
    (ofScan scan).left = scan.input := by
  simp [left, ofScan, Level.left, Scan.rest_of_start hcursor]

section Next

variable {answer : Option Token}

theorem Next.outer (hset : set.Sound) (hstream : stream.Sound set start)
    (h : Next set stream answer stream' events) :
    ∃ read, stream.outer.Passes stream'.outer read := by
  induction h with
  | @token scan made rest waiting =>
      rw [outer_eq scan _ rest]
      exact ⟨[], .refl _⟩
  | finish => exact ⟨[], .refl _⟩
  | move hmove _ ih =>
      obtain ⟨read, hfirst⟩ := hmove.outer hset hstream
      obtain ⟨read', hrest⟩ := ih (hmove.sound hset hstream)
      exact ⟨read ++ read', hfirst.trans hrest⟩

-- A token begins where the stream goes on, and takes its text from what is left.
theorem Next.of_some {token : Token} (hset : set.Sound) (hstream : stream.Sound set start)
    (h : Next set stream (some token) stream' events) :
    token.start = start ∧ token.text ≠ [] ∧ stream.left = token.text ++ stream'.left ∧
      stream'.Sound set (start + Text.size token.text) := by
  generalize hanswer : some token = answer at h
  induction h with
  | @token scan made rest waiting =>
      obtain rfl := Option.some.inj hanswer
      obtain ⟨hstart, hne, -, hrest⟩ := hstream.active.cons
      refine ⟨hstart, hne, ?_, hstream.of_active hrest rfl rfl rfl⟩
      simp [left, Level.left, Piece.text]
  | finish => contradiction
  | move hmove _ ih =>
      rw [← hmove.left_eq hset hstream]
      exact ih (hmove.sound hset hstream) hanswer

-- Without a token, nothing is left on any level.
theorem Next.of_none (hset : set.Sound) (hstream : stream.Sound set start)
    (h : Next set stream none stream' events) :
    stream.left = [] ∧ stream'.left = [] ∧ stream'.Sound set start ∧
      ∃ scan, stream' = ⟨⟨scan, []⟩, []⟩ ∧ scan.isDone = true := by
  generalize hanswer : (none : Option Token) = answer at h
  induction h with
  | token => contradiction
  | @finish scan hdone =>
      have hrest := hstream.active.scan.isDone_iff.mp hdone
      have hleft : left ⟨⟨scan, []⟩, []⟩ = [] := by simp [left, Level.left, hrest]
      exact ⟨hleft, hleft, hstream, scan, rfl, hdone⟩
  | move hmove _ ih =>
      rw [← hmove.left_eq hset hstream]
      exact ih (hmove.sound hset hstream) hanswer

theorem Next.sound (hset : set.Sound) (hstream : stream.Sound set start)
    (h : Next set stream answer stream' events) : ∃ start', stream'.Sound set start' := by
  cases answer with
  | none =>
      obtain ⟨-, -, hsound, -⟩ := h.of_none hset hstream
      exact ⟨start, hsound⟩
  | some token =>
      obtain ⟨-, -, -, hsound⟩ := h.of_some hset hstream
      exact ⟨_, hsound⟩

end Next

-- A move leaves fewer turns, so a call comes to its answer.
theorem exists_next (hset : set.Sound) (hstream : stream.Sound set start) :
    ∃ answer stream' events, Next set stream answer stream' events := by
  generalize hturns : turns set stream.active stream.waiting = count
  induction count using Nat.strongRecOn generalizing stream start with
  | ind count ih =>
      have hmove : ∀ {between : Stream} {events : List Event}, Moves set stream between events →
          ∃ answer stream' events, Next set stream answer stream' events := by
        intro between events hmove
        have hlt := hmove.turns_lt hset hstream
        obtain ⟨answer, stream', events', hnext⟩ :=
          ih _ (hturns ▸ hlt) (hmove.sound hset hstream) rfl
        exact ⟨answer, stream', _, .move hmove hnext⟩
      obtain ⟨⟨scan, pending⟩, waiting⟩ := stream
      cases pending with
      | nil =>
          cases hdone : scan.isDone with
          | true =>
              cases waiting with
              | nil => exact ⟨_, _, _, .finish hdone⟩
              | cons level waiting => exact hmove (.leave hdone)
          | false =>
              obtain ⟨next, pieces, events, hstep⟩ :=
                Scan.exists_steps hstream.active.scan hdone
              exact hmove (.step hdone hstep)
      | cons piece rest =>
          cases piece with
          | token made => exact ⟨_, _, _, .token⟩
          | nested inner => exact hmove .enter

section Runs

variable {m : Type → Type} [Monad m] {host : Host m} (R : Reading set host)
variable {answer : Option Token}

theorem Next.within_ok (hset : set.Sound) (hstream : stream.Sound set start)
    (h : Next set stream answer stream' events) {fuel : Nat}
    (hfuel : turns set stream.active stream.waiting ≤ fuel) :
    R.Ok (nextWithin set host fuel stream) (answer, stream') events := by
  induction h generalizing start fuel with
  | @token scan made rest waiting =>
      rw [turns_pending] at hfuel
      obtain ⟨fuel, rfl⟩ : ∃ more, fuel = more + 1 := Nat.exists_eq_add_of_le' (by omega)
      exact R.ok_pure _
  | @finish scan hdone =>
      have hpos := turns_pos set ⟨scan, []⟩ []
      change turns set ⟨scan, []⟩ [] ≤ fuel at hfuel
      obtain ⟨fuel, rfl⟩ : ∃ more, fuel = more + 1 := Nat.exists_eq_add_of_le' (by omega)
      rw [nextWithin, if_pos hdone]
      exact R.ok_pure _
  | @move stream between stream' answer events events' hmove _ ih =>
      have hlt := hmove.turns_lt hset hstream
      obtain ⟨fuel, rfl⟩ : ∃ more, fuel = more + 1 := Nat.exists_eq_add_of_le' (by omega)
      have hrest := ih (hmove.sound hset hstream) (Nat.le_of_lt_succ (Nat.lt_of_lt_of_le hlt hfuel))
      cases hmove with
      | enter => exact hrest
      | leave hdone =>
          rw [nextWithin, if_pos hdone]
          exact hrest
      | step hdone hstep =>
          unfold nextWithin
          rw [if_neg (by simp [hdone])]
          exact R.ok_bind (hstep.ok R hset hstream.active.scan) hrest

-- What a call can do is what it does, with no fault.
theorem Next.ok (hset : set.Sound) (hstream : stream.Sound set start)
    (h : Next set stream answer stream' events) :
    R.Ok (stream.next set host) (answer, stream') events :=
  h.within_ok R hset hstream (turns_le_patience hstream)

end Runs

-- A call comes back, for every host.
theorem next_ok (hset : set.Sound) (hstream : stream.Sound set start) :
    ∃ answer stream' events, Next set stream answer stream' events ∧
      ∀ {m : Type → Type} [Monad m] {host : Host m} (R : Reading set host),
        R.Ok (stream.next set host) (answer, stream') events := by
  obtain ⟨answer, stream', events, hnext⟩ := exists_next hset hstream
  exact ⟨answer, stream', events, hnext, fun R => hnext.ok R hset hstream⟩

-- A stream that has ended stays as it is.
theorem next_ended {m : Type → Type} [Monad m] (set : TableSet) (host : Host m) {scan : Scan}
    (hdone : scan.isDone = true) :
    next set host ⟨⟨scan, []⟩, []⟩ = pure (none, ⟨⟨scan, []⟩, []⟩) := by
  obtain ⟨fuel, hfuel⟩ : ∃ fuel, patience set.options = fuel + 1 :=
    Nat.exists_eq_succ_of_ne_zero (by simp [patience])
  rw [next, hfuel, nextWithin, if_pos hdone]

end Stream

end StackLexer
