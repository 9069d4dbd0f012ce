import StackLexer.Proofs.Scan.Calls
import StackLexer.Proofs.Scan.Sample

namespace StackLexer

-- Each token starts where the one before it ended, and the first at `start`.
def EndToEnd : Nat → List Token → Prop
  | _, [] => True
  | start, token :: rest => token.start = start ∧ EndToEnd token.stop rest

-- The tokens cover the first `stop` bytes of a text that begins at the offset `base`: none is
-- empty, they lie end to end, each has the text at its range, and together they are that part.
structure Partition (base : Nat) (text : Text) (stop : Nat) (tokens : List Token) : Prop where
  nonempty : ∀ token ∈ tokens, token.text ≠ []
  endToEnd : EndToEnd base tokens
  slices : ∀ token ∈ tokens, base ≤ token.start ∧
    text.slice? ⟨token.start - base, token.stop - base⟩ = some token.text
  whole : text.take? stop = some (tokens.flatMap Token.text)

namespace Covers

variable {start : Nat} {tokens : List Token} {text : Text}

theorem endToEnd (h : Covers start tokens text) : EndToEnd start tokens := by
  induction tokens generalizing start text with
  | nil => trivial
  | cons token tokens ih =>
      obtain ⟨rfl, -, after, -, hrest⟩ := h
      exact ⟨rfl, ih hrest⟩

theorem nonempty (h : Covers start tokens text) : ∀ token ∈ tokens, token.text ≠ [] := by
  induction tokens generalizing start text with
  | nil => simp
  | cons token tokens ih =>
      obtain ⟨-, hne, after, -, hrest⟩ := h
      exact List.forall_mem_cons.mpr ⟨hne, ih hrest⟩

theorem texts_eq (h : Covers start tokens text) : tokens.flatMap Token.text = text := by
  induction tokens generalizing start text with
  | nil => exact h.symm
  | cons token tokens ih =>
      obtain ⟨-, -, after, rfl, hrest⟩ := h
      rw [List.flatMap_cons, ih hrest]
      rfl

-- The text of a token is found at its range, whatever follows.
theorem slices {base : Nat} (rest : Text) (h : Covers base tokens text) :
    ∀ token ∈ tokens, base ≤ token.start ∧
      (text ++ rest).slice? ⟨token.start - base, token.stop - base⟩ = some token.text := by
  intro token hmem
  obtain ⟨before, after, rfl, hstart⟩ := h.exists_cut hmem
  have hspan : (⟨token.start - base, token.stop - base⟩ : Span) =
      ⟨Text.size before, Text.size before + Text.size token.text⟩ := by
    rw [Token.stop, hstart, Nat.add_assoc, Nat.add_sub_cancel_left, Nat.add_sub_cancel_left]
  refine ⟨hstart ▸ Nat.le_add_right _ _, ?_⟩
  rw [hspan, List.append_assoc _ after]
  exact Text.slice?_append _ _ _

theorem partition {base : Nat} {rest : Text} (h : Covers base tokens text) :
    Partition base (text ++ rest) (Text.size text) tokens where
  nonempty := h.nonempty
  endToEnd := h.endToEnd
  slices := h.slices rest
  whole := by rw [Text.take?_append, h.texts_eq]

theorem of_endToEnd (h : EndToEnd start tokens) (hnonempty : ∀ token ∈ tokens, token.text ≠ []) :
    Covers start tokens (tokens.flatMap Token.text) := by
  induction tokens generalizing start with
  | nil => rfl
  | cons token tokens ih =>
    obtain ⟨rfl, hrest⟩ := h
    obtain ⟨hne, hnonempty⟩ := List.forall_mem_cons.mp hnonempty
    exact .cons hne (ih hrest hnonempty)

-- A partition of a text up to its end.
theorem iff_partition : Covers start tokens text ↔ Partition start text text.size tokens := by
  constructor
  · intro h
    have hpartition : Partition start (text ++ []) text.size tokens := h.partition
    rwa [List.append_nil] at hpartition
  · intro h
    have hwhole := h.whole
    have hall := Text.take?_append text []
    rw [List.append_nil, hwhole] at hall
    rw [← Option.some.inj hall]
    exact of_endToEnd h.endToEnd h.nonempty

end Covers

namespace Stream

-- All tokens that a stream has yet to give.
def drained (set : TableSet) (stream : Stream) : Except Fault (List Token) := do
  let (pulls, _) ← (stream.rest set set.plainHost : ExceptT Fault Id _)
  return pulls.map (·.1)

-- The tokens of pieces, with the scans among them drained.
def piecesDrained (set : TableSet) : List Piece → Except Fault (List Token)
  | [] => .ok []
  | .token token :: rest => do return token :: (← piecesDrained set rest)
  | .nested scan :: rest => do
      return (← drained set (ofScan scan)) ++ (← piecesDrained set rest)

-- The tokens that are still to come from what the outer scan has already passed: those of the scan
-- that is under way inside of it, if there is one, and those of its pending pieces.
def queued (set : TableSet) (stream : Stream) : Except Fault (List Token) :=
  match stream.waiting.getLast? with
  | none => piecesDrained set stream.active.pending
  | some outer => do
      return (← drained set ⟨stream.active, stream.waiting.dropLast⟩) ++
        (← piecesDrained set outer.pending)

section Queued

variable {set : TableSet} {stream : Stream} {start : Nat}

theorem drained_ok (hset : set.Sound) (hstream : stream.Sound set start) :
    ∃ tokens, stream.drained set = .ok tokens ∧ Covers start tokens stream.left := by
  obtain ⟨pulls, final, events, hcovers, hrun⟩ := rest_ok hset hstream
  refine ⟨pulls.map (·.1), ?_, hcovers⟩
  have hrest : stream.rest set set.plainHost = Except.ok (pulls, final) := hrun set.plainReading
  rw [drained, hrest]
  rfl

theorem piecesDrained_ok (hset : set.Sound) {pieces : List Piece} {depth : Nat} {text : Text}
    (hfills : Fills start pieces text) (hpieces : ∀ piece ∈ pieces, piece.Sound set depth) :
    ∃ tokens, piecesDrained set pieces = .ok tokens ∧ Covers start tokens text := by
  induction pieces generalizing start text with
  | nil => exact ⟨[], rfl, hfills⟩
  | cons piece pieces ih =>
      obtain ⟨hstart, hne, after, rfl, hrest⟩ := hfills
      obtain ⟨hpiece, hpieces⟩ := List.forall_mem_cons.mp hpieces
      obtain ⟨tokens, hdrained, hcovers⟩ := ih hrest hpieces
      cases piece with
      | token made =>
          obtain rfl : made.start = start := hstart
          refine ⟨made :: tokens, ?_, .cons hne hcovers⟩
          rw [piecesDrained, hdrained]
          rfl
      | nested inner =>
          obtain ⟨hinner, hcursor, -, -⟩ := hpiece
          obtain ⟨own, hown, hfirst⟩ := drained_ok hset (ofScan_sound hinner hcursor)
          rw [left_ofScan hcursor] at hfirst
          obtain rfl : inner.base = start := hstart
          refine ⟨own ++ tokens, ?_, hfirst.append hcovers⟩
          rw [piecesDrained, hown, hdrained]
          rfl

-- The outermost of several levels, and the levels inside of it.
theorem Sound.split {level outer : Level} {inside : List Level}
    (h : Level.Chain set start level (inside ++ [outer])) :
    Level.Chain set start level inside ∧ outer.Sound set
      ((inside.getLastD level).scan.base + Text.size (inside.getLastD level).scan.input) := by
  induction inside generalizing start level with
  | nil =>
      obtain ⟨hlevel, -, -, -, houter⟩ := h
      exact ⟨hlevel, houter⟩
  | cons next inside ih =>
      obtain ⟨hlevel, hdepth, hlimit, hbase, hrest⟩ := h
      obtain ⟨hinside, houter⟩ := ih hrest
      rw [List.getLastD_cons]
      exact ⟨⟨hlevel, hdepth, hlimit, hbase, hinside⟩, houter⟩

theorem queued_ok (hset : set.Sound) (hstream : stream.Sound set start) :
    ∃ tokens text, stream.queued set = .ok tokens ∧ Covers start tokens text ∧
      stream.left = text ++ stream.outer.rest := by
  obtain ⟨level, waiting⟩ := stream
  rcases List.eq_nil_or_concat waiting with rfl | ⟨inside, outer, rfl⟩
  · obtain ⟨text, hfills, -⟩ := hstream.active.fills
    obtain ⟨tokens, hdrained, hcovers⟩ := piecesDrained_ok hset hfills hstream.active.pieces
    exact ⟨tokens, text, hdrained, hcovers, by simp [left, Level.left, Stream.outer,
      hfills.eq_flatMap]⟩
  · rw [List.concat_eq_append] at hstream ⊢
    obtain ⟨hinside, houter⟩ := Sound.split hstream
    have hnested : Sound set start ⟨level, inside⟩ := hinside
    have hsize := hnested.left_size
    obtain ⟨own, hown, hfirst⟩ := drained_ok hset hnested
    obtain ⟨text, hfills, -⟩ := houter.fills
    obtain ⟨tokens, hdrained, hcovers⟩ := piecesDrained_ok hset hfills houter.pieces
    refine ⟨own ++ tokens, left ⟨level, inside⟩ ++ text, ?_, ?_, ?_⟩
    · simp only [queued, List.getLast?_concat, List.dropLast_concat, hown, hdrained]
      rfl
    · exact hfirst.append (hsize ▸ hcovers)
    · simp [left, Level.left, Stream.outer, hfills.eq_flatMap]

end Queued

-- After any number of calls, the tokens so far and those still to come from the pending pieces
-- cover the text up to the cursor. Once a call gives no token, those so far cover the whole text.
theorem calls_cover {grammars : List Grammar} {options : Options} {set : TableSet}
    (hbuild : TableSet.build grammars options = .ok set) {lexer : TableId} {table : Table}
    (htable : set.table? lexer = some table) {state? : Option StateId}
    (hstate : ∀ state ∈ state?, state < table.states.length) (text : Text)
    (base depth count : Nat) :
    ∃ answers stream queuedTokens,
      (calls set set.plainHost count
        (.ofScan (.fresh lexer table.root state? text base depth))).run = .ok (answers, stream) ∧
      stream.queued set = .ok queuedTokens ∧
      Partition base text stream.outer.cursor (answers.filterMap id ++ queuedTokens) ∧
      (none ∈ answers → Partition base text text.size (answers.filterMap id)) := by
  have hset := TableSet.sound_of_build hbuild
  have hfresh := Scan.fresh_sound hset htable hstate text base depth
  have hstart : Sound set base (.ofScan (.fresh lexer table.root state? text base depth)) :=
    ofScan_sound hfresh rfl
  have hleft : left (.ofScan (.fresh lexer table.root state? text base depth)) = text :=
    left_ofScan rfl
  obtain ⟨answers, stream, events, -, hcalls, hrun⟩ := calls_ok hset hstart count
  obtain ⟨taken, hcovers, htaken, hstream⟩ := hcalls.covers hset hstart
  obtain ⟨read, hpasses⟩ := hcalls.outer hset hstart
  obtain ⟨queuedTokens, ahead, hqueued, hahead, hrest⟩ := queued_ok hset hstream
  rw [hleft] at htaken
  -- what was taken or is pending is what the outer scan has passed
  have htext : text = taken ++ ahead ++ stream.outer.rest := by
    rw [htaken, hrest, List.append_assoc]
  have hread : read = taken ++ ahead := by
    have hinput : text = read ++ stream.outer.rest :=
      (Scan.rest_of_start rfl).symm.trans hpasses.rest
    exact List.append_cancel_right (hinput.symm.trans htext)
  refine ⟨answers, stream, queuedTokens, hrun set.plainReading, hqueued, ?_, fun hnone => ?_⟩
  · have hcursor : stream.outer.cursor = Text.size (taken ++ ahead) := by
      rw [hpasses.cursor, hread]
      exact Nat.zero_add _
    rw [hcursor, htext]
    exact (hcovers.append hahead).partition
  · have hend := hcalls.left_of_none hset hstart hnone
    obtain rfl : text = taken := by rw [htaken, hend, List.append_nil]
    have hpartition : Partition base (text ++ []) text.size (answers.filterMap id) :=
      hcovers.partition
    rwa [List.append_nil] at hpartition

theorem sample_calls_cover : ∃ set table, TableSet.build [.sample] .sample = .ok set ∧
    set.table? 0 = some table ∧ (∀ state ∈ some 1, state < table.states.length) ∧
    ∃ answers stream queuedTokens,
      (calls set set.plainHost 4 (.ofScan
        (.fresh 0 table.root (some 1) "ab<cd<e>>12 x".toList 7 1))).run = .ok (answers, stream) ∧
      stream.queued set = .ok queuedTokens ∧
      Partition 7 "ab<cd<e>>12 x".toList stream.outer.cursor
        (answers.filterMap id ++ queuedTokens) ∧
      (none ∈ answers → Partition 7 "ab<cd<e>>12 x".toList
        (Text.size "ab<cd<e>>12 x".toList) (answers.filterMap id)) := by
  obtain ⟨set, table, hbuild, htable, hstates⟩ := Grammar.sample_builds
  have hstate : ∀ state ∈ some 1, state < table.states.length := by simpa using hstates
  exact ⟨set, table, hbuild, htable, hstate, calls_cover hbuild htable hstate _ 7 1 4⟩

end Stream

end StackLexer
