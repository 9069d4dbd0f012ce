import StackLexer.Proofs.Scan.Sample
import StackLexer.Proofs.Scan.Simulation

namespace StackLexer

-- The limits that are left `depth` levels further in.
def Options.below (options : Options) (depth : Nat) : Options :=
  { options with maxDelegationDepth := options.maxDelegationDepth - depth }

def TableSet.below (set : TableSet) (depth : Nat) : TableSet :=
  { set with options := set.options.below depth }

theorem TableSet.build_below {grammars : List Grammar} {options : Options} {set : TableSet}
    (hbuild : build grammars options = .ok set) (depth : Nat) :
    build grammars (options.below depth) = .ok (set.below depth) := by
  obtain rfl := options_of_build hbuild
  exact build_with hbuild _

-- Where a nested scan stands in the outermost input is added to its tokens.
def Token.shift (base : Nat) (token : Token) : Token := { token with start := token.start + base }

def Scan.shift (base depth : Nat) (scan : Scan) : Scan :=
  { scan with base := scan.base + base, depth := scan.depth + depth }

def Piece.shift (base depth : Nat) : Piece → Piece
  | .token made => .token (made.shift base)
  | .nested scan => .nested (scan.shift base depth)

def Event.shift (base depth : Nat) : Event → Event
  | .step scan winner? => .step (scan.shift base depth) winner?
  | .call context => .call context

-- What a callback saw, if the event is a call.
def Event.context? : Event → Option MatchView
  | .step _ _ => none
  | .call context => some context

theorem Event.contexts_shift (base depth : Nat) (events : List Event) :
    (events.map (shift base depth)).filterMap context? = events.filterMap context? := by
  rw [List.filterMap_map]
  apply List.filterMap_congr
  intro event _
  cases event <;> rfl

namespace Scan

variable {set : TableSet} {base depth : Nat} {scan : Scan}

theorem fresh_shift (table : TableId) (root : StateId) (state? : Option StateId) (input : Text)
    (start level : Nat) :
    (fresh table root state? input start level).shift base depth =
      fresh table root state? input (start + base) (level + depth) := rfl

theorem offset_shift : (scan.shift base depth).offset = scan.offset + base := by
  change scan.base + base + scan.cursor = scan.base + scan.cursor + base
  omega

theorem errorTokens_shift (start : Nat) (text : Text) :
    errorTokens (start + base) text = (errorTokens start text).map (Piece.shift base depth) := by
  induction text generalizing start with
  | nil => rfl
  | cons c text ih =>
      rw [errorTokens, errorTokens, List.map_cons, ← ih, Nat.add_right_comm]
      rfl

theorem errorPieces_shift (span : Span) :
    (scan.shift base depth).errorPieces span =
      (scan.errorPieces span).map (Piece.shift base depth) := by
  unfold errorPieces
  rw [← errorTokens_shift, ← Nat.add_right_comm]
  rfl

-- The limit is met at the same depth, counted from the outermost scan.
theorem delegated_shift (handle : Handle) (span : Span) :
    (scan.shift base depth).delegated set handle span =
      (scan.delegated (set.below depth) handle span).map (Piece.shift base depth) := by
  have hdepth : set.options.maxDelegationDepth ≤ (scan.shift base depth).depth ↔
      (set.below depth).options.maxDelegationDepth ≤ scan.depth := by
    change _ ≤ scan.depth + depth ↔ set.options.maxDelegationDepth - depth ≤ _
    omega
  unfold delegated
  by_cases hdeep : (set.below depth).options.maxDelegationDepth ≤ scan.depth
  · rw [if_pos (hdepth.mpr hdeep), if_pos hdeep]
    exact errorPieces_shift span
  · rw [if_neg (mt hdepth.mp hdeep), if_neg hdeep]
    cases hlookup : set.lookup? scan.table handle.delegation with
    | none =>
        have hbelow : (set.below depth).lookup? scan.table handle.delegation = none := hlookup
        have hshift : set.lookup? (scan.shift base depth).table handle.delegation = none := hlookup
        simp only [hbelow, hshift]
        exact errorPieces_shift span
    | some target =>
        have hbelow : (set.below depth).lookup? scan.table handle.delegation = some target :=
          hlookup
        have hshift : set.lookup? (scan.shift base depth).table handle.delegation = some target :=
          hlookup
        have hstart : scan.base + base + span.start = scan.base + span.start + base :=
          Nat.add_right_comm _ _ _
        have hlevel : scan.depth + depth + 1 = scan.depth + 1 + depth := Nat.add_right_comm _ _ _
        simp only [hbelow, hshift]
        change Option.toList (Option.map _ (set.table? target.table)) =
          List.map _ (Option.toList (Option.map _ (set.table? target.table)))
        cases set.table? target.table with
        | none => rfl
        | some table =>
            simp only [Option.map_some, Option.toList_some, List.map_cons, List.map_nil,
              Piece.shift, fresh_shift, ← hstart, ← hlevel]
            rfl

theorem piecesOf_shift (segment : Segment (Part Handle)) :
    (scan.shift base depth).piecesOf set segment =
      (scan.piecesOf (set.below depth) segment).map (Piece.shift base depth) := by
  cases segment with
  | unclaimed span => exact errorPieces_shift span
  | claimed part span =>
      cases part with
      | delegate handle => exact delegated_shift handle span
      | kind kind =>
          have hstart : scan.base + base + span.start = scan.base + span.start + base :=
            Nat.add_right_comm _ _ _
          simp only [piecesOf, shift, hstart, List.map_cons, List.map_nil, Piece.shift, Token.shift]

theorem flatMap_piecesOf_shift (segments : List (Segment (Part Handle))) :
    segments.flatMap ((scan.shift base depth).piecesOf set) =
      (segments.flatMap (scan.piecesOf (set.below depth))).map (Piece.shift base depth) := by
  rw [List.map_flatMap]
  apply List.flatMap_congr
  intro segment _
  exact piecesOf_shift segment

theorem calls_shift (state : State) (rule : Rule) (found : Match) :
    (scan.calls state rule found).map (Event.shift base depth) = scan.calls state rule found := by
  unfold calls
  split <;> rfl

-- What a scan faces does not depend on where it stands.
theorem Faces.shift {state : State} {won : Option (Rule × Match)}
    (h : scan.Faces (set.below depth) state won) : (scan.shift base depth).Faces set state won :=
  ⟨h.table, h.place⟩

theorem Steps.shift {next : Scan} {pieces : List Piece} {events : List Event}
    (h : scan.Steps (set.below depth) next pieces events) :
    (scan.shift base depth).Steps set (next.shift base depth)
      (pieces.map (Piece.shift base depth)) (events.map (Event.shift base depth)) := by
  cases h with
  | fail hfaces hrest =>
      rw [← errorTokens_shift, ← offset_shift]
      exact .fail hfaces.shift hrest
  | take hfaces hspan =>
      rw [← flatMap_piecesOf_shift, List.map_cons, calls_shift]
      exact .take hfaces.shift hspan
  | stay hfaces hspan hlimit => exact .stay hfaces.shift hspan hlimit
  | force hfaces hspan hlimit hrest =>
      rw [← errorTokens_shift, ← offset_shift]
      exact .force hfaces.shift hspan hlimit hrest

end Scan

-- A scan over the lower limits, and the same scan further in.
def Simulation.nesting (set : TableSet) (base depth : Nat) : Simulation (set.below depth) set where
  Scans scan scan' := scan' = scan.shift base depth
  Tokens made made' := made' = made.shift base
  Records events events' := events' = events.map (Event.shift base depth)
  nil := rfl
  append := by
    rintro events _ more _ rfl rfl
    exact List.map_append.symm
  done := by
    rintro scan _ rfl
    rfl
  step := by
    rintro scan _ next pieces events rfl - - hstep
    refine ⟨_, _, _, hstep.shift, rfl, ?_, rfl⟩
    apply List.forall₂_map_right_iff.mpr
    apply List.forall₂_same.mpr
    intro piece _
    cases piece with
    | token made => exact .token rfl
    | nested inner => exact .nested rfl

namespace Stream

variable {set : TableSet} {stream final : Stream} {events : List Event}

-- Levels further out are not touched before those inside of them have ended.
theorem Moves.under {stream' : Stream} (h : Moves set stream stream' events)
    (outer : List Level) :
    Moves set ⟨stream.active, stream.waiting ++ outer⟩ ⟨stream'.active, stream'.waiting ++ outer⟩
      events := by
  cases h with
  | enter => exact .enter
  | leave hdone => exact .leave hdone
  | step hdone hstep => exact .step hdone hstep

theorem Next.under {stream' : Stream} {token : Token}
    (h : Next set stream (some token) stream' events) (outer : List Level) :
    Next set ⟨stream.active, stream.waiting ++ outer⟩ (some token)
      ⟨stream'.active, stream'.waiting ++ outer⟩ events := by
  generalize hanswer : some token = answer at h
  induction h with
  | token => exact .token
  | finish => contradiction
  | move hmove _ ih => exact .move (hmove.under outer) (ih hanswer)

theorem Calls.under {tokens : List Token} (h : Calls set stream (tokens.map some) final events)
    (outer : List Level) :
    Calls set ⟨stream.active, stream.waiting ++ outer⟩ (tokens.map some)
      ⟨final.active, final.waiting ++ outer⟩ events := by
  generalize hanswers : tokens.map some = answers at h
  induction h generalizing tokens with
  | nil => exact .nil
  | cons hnext _ ih =>
      obtain ⟨token, tokens, rfl, rfl, hrest⟩ := List.map_eq_cons_iff.mp hanswers
      exact .cons (hnext.under outer) (ih hrest)

theorem answers_eq_of_related {base : Nat} {answers answers' : List (Option Token)}
    (h : List.Forall₂ (Option.Rel fun made made' => made' = Token.shift base made)
      answers answers') :
    answers' = answers.map (Option.map (Token.shift base)) := by
  induction h with
  | nil => rfl
  | cons hanswer _ ih =>
      rw [List.map_cons, ih]
      cases hanswer with
      | some heq => rw [heq, Option.map_some]
      | none => rfl

-- A nested scan gives what a scan of the same text gives on its own under the limits that are left,
-- and its callbacks see the same. Where it runs inside of others, it leaves them as they are.
theorem nested_scan_eq_fresh_scan {grammars : List Grammar} {options : Options} {set : TableSet}
    (hbuild : TableSet.build grammars options = .ok set) {lexer : TableId} {table : Table}
    (htable : set.table? lexer = some table) {state? : Option StateId}
    (hstate : ∀ state ∈ state?, state < table.states.length) (text : Text)
    (base depth count : Nat) :
    TableSet.build grammars (options.below depth) = .ok (set.below depth) ∧
    ∃ answers final final' events events',
      (calls (set.below depth) (set.below depth).tracer count
          (.ofScan (.fresh lexer table.root state? text 0 0))).run [] =
        (.ok (answers, final), events) ∧
      (calls set set.tracer count
          (.ofScan (.fresh lexer table.root state? text base depth))).run [] =
        (.ok (answers.map (Option.map (Token.shift base)), final'), events') ∧
      events'.filterMap Event.context? = events.filterMap Event.context? ∧
      ∀ (tokens : List Token) (outer : List Level) (start : Nat), answers = tokens.map some →
        Sound set start ⟨⟨.fresh lexer table.root state? text base depth, []⟩, outer⟩ →
        (calls set set.tracer count
            ⟨⟨.fresh lexer table.root state? text base depth, []⟩, outer⟩).run [] =
          (.ok ((tokens.map (Token.shift base)).map some,
            ⟨final'.active, final'.waiting ++ outer⟩), events') := by
  have hbelow := TableSet.build_below hbuild depth
  have hset := TableSet.sound_of_build hbuild
  have hset' := TableSet.sound_of_build hbelow
  have hfresh : Sound (set.below depth) 0 (.ofScan (.fresh lexer table.root state? text 0 0)) :=
    ofScan_sound (Scan.fresh_sound hset' htable hstate text 0 0) rfl
  have hnested : Sound set base (.ofScan (.fresh lexer table.root state? text base depth)) :=
    ofScan_sound (Scan.fresh_sound hset htable hstate text base depth) rfl
  have hrelated : (Simulation.nesting set base depth).Scans
      (.fresh lexer table.root state? text 0 0)
      (.fresh lexer table.root state? text base depth) := by
    change _ = Scan.shift base depth _
    rw [Scan.fresh_shift, Nat.zero_add, Nat.zero_add]
  obtain ⟨answers, final, events, rfl, hcalls⟩ := exists_calls hset' hfresh count
  obtain ⟨answers', final', events', hcalls', hanswers, -, hevents⟩ :=
    Simulation.calls hset' (Simulation.streams_ofScan hrelated) hfresh hcalls
  obtain rfl := answers_eq_of_related hanswers
  obtain rfl : events' = events.map (Event.shift base depth) := hevents
  have hrun := hcalls'.ok set.tracerReading hset hnested []
  rw [List.length_map] at hrun
  refine ⟨hbelow, answers, final, final', events, _, ?_, hrun, Event.contexts_shift _ _ _, ?_⟩
  · exact hcalls.ok (set.below depth).tracerReading hset' hfresh []
  · intro tokens outer start htokens houter
    subst htokens
    have hshift : (tokens.map some).map (Option.map (Token.shift base)) =
        (tokens.map (Token.shift base)).map some := by
      simp [Function.comp_def]
    rw [hshift] at hcalls'
    have hinside := (hcalls'.under outer).ok set.tracerReading hset houter []
    rw [List.length_map, List.length_map] at hinside
    rw [List.length_map]
    exact hinside

theorem sample_nested_scan : ∃ set table, TableSet.build [.sample] .sample = .ok set ∧
    set.table? 0 = some table ∧ (∀ state ∈ some 1, state < table.states.length) ∧
    TableSet.build [.sample] (Options.below .sample 1) = .ok (set.below 1) ∧
    ∃ answers final final' events events',
      (calls (set.below 1) (set.below 1).tracer 6
          (.ofScan (.fresh 0 table.root (some 1) " ab<c<d>>12".toList 0 0))).run [] =
        (.ok (answers, final), events) ∧
      (calls set set.tracer 6
          (.ofScan (.fresh 0 table.root (some 1) " ab<c<d>>12".toList 9 1))).run [] =
        (.ok (answers.map (Option.map (Token.shift 9)), final'), events') ∧
      events'.filterMap Event.context? = events.filterMap Event.context? ∧
      ∀ (tokens : List Token) (outer : List Level) (start : Nat), answers = tokens.map some →
        Sound set start
          ⟨⟨.fresh 0 table.root (some 1) " ab<c<d>>12".toList 9 1, []⟩, outer⟩ →
        (calls set set.tracer 6
            ⟨⟨.fresh 0 table.root (some 1) " ab<c<d>>12".toList 9 1, []⟩, outer⟩).run [] =
          (.ok ((tokens.map (Token.shift 9)).map some,
            ⟨final'.active, final'.waiting ++ outer⟩), events') := by
  obtain ⟨set, table, hbuild, htable, hstates⟩ := Grammar.sample_builds
  have hstate : ∀ state ∈ some 1, state < table.states.length := by simpa using hstates
  exact ⟨set, table, hbuild, htable, hstate,
    nested_scan_eq_fresh_scan hbuild htable hstate _ 9 1 6⟩

end Stream

end StackLexer
