import StackLexer.Proofs.Scan.Sample
import StackLexer.Proofs.Scan.Twins

namespace StackLexer

-- What a scan hands out by itself: a token, or a span for another scan.
inductive Item where
  | token (token : Token)
  | span (start : Nat) (text : Text)
deriving DecidableEq, Repr

def Piece.item : Piece → Item
  | .token made => .token made
  | .nested scan => .span scan.base scan.input

-- The tokens that items become: a token itself, and a span some tokens that cover it.
inductive Fits : List Item → List Token → Prop where
  | nil : Fits [] []
  | token {made items tokens} (hrest : Fits items tokens) :
      Fits (.token made :: items) (made :: tokens)
  | span {start text inside items tokens} (hinside : Covers start inside text)
      (hrest : Fits items tokens) : Fits (.span start text :: items) (inside ++ tokens)

theorem Fits.append {first second : List Item} {tokens tokens' : List Token}
    (h : Fits first tokens) (h' : Fits second tokens') :
    Fits (first ++ second) (tokens ++ tokens') := by
  induction h with
  | nil => exact h'
  | token _ ih => exact .token ih
  | span hinside _ ih =>
      rw [List.append_assoc]
      exact .span hinside ih

-- The event is a step of a scan that is inside of no other.
def Event.isOuter : Event → Bool
  | .step scan _ => scan.depth == 0
  | .call _ => false

namespace Scan

-- The steps of one scan from where it stands to its end, and the pieces that they make.
inductive Runs (set : TableSet) : Scan → List Event → List Piece → Scan → Prop where
  | done {scan} (hdone : scan.isDone = true) : Runs set scan [] [] scan
  | step {scan won next calls pieces steps more final} (hdone : scan.isDone = false)
      (hstep : scan.Steps set next pieces (.step scan won :: calls))
      (hrest : Runs set next steps more final) :
      Runs set scan (.step scan won :: steps) (pieces ++ more) final

variable {set set' : TableSet} {id id' : TableId} {Inner : Scan → Scan → Prop}
variable {scan next final final' : Scan} {pieces pieces' : List Piece}
variable {events steps steps' : List Event}

theorem Steps.outer_events (h : scan.Steps set next pieces events) :
    ∃ won calls, events = .step scan won :: calls ∧
      events.filter Event.isOuter = if scan.depth = 0 then [.step scan won] else [] := by
  obtain ⟨-, won, calls, -, rfl, hcalls⟩ := h.records
  refine ⟨_, calls, rfl, ?_⟩
  have hnone : calls.filter Event.isOuter = [] := by
    apply List.filter_eq_nil_iff.mpr
    intro event hmem
    obtain ⟨context, rfl⟩ := hcalls event hmem
    simp [Event.isOuter]
  rw [List.filter_cons, hnone]
  simp only [Event.isOuter, beq_iff_eq]

-- A scan has one next step, whoever looks on.
theorem Steps.unique (hset : set.Sound) (hscan : scan.Sound set)
    (h : scan.Steps set next pieces events) {next' : Scan} {events' : List Event}
    (h' : scan.Steps set next' pieces' events') :
    next = next' ∧ pieces = pieces' ∧ events = events' := by
  have hrun := h.ok set.tracerReading hset hscan []
  have hrun' := h'.ok set.tracerReading hset hscan []
  obtain ⟨hgiven, hevents⟩ := Prod.mk.inj (hrun.symm.trans hrun')
  obtain ⟨hnext, hpieces⟩ := Prod.mk.inj (Except.ok.inj hgiven)
  exact ⟨hnext, hpieces, hevents⟩

theorem Runs.unique (hset : set.Sound) (hscan : scan.Sound set)
    (h : scan.Runs set steps pieces final) (h' : scan.Runs set steps' pieces' final') :
    steps = steps' ∧ pieces = pieces' ∧ final = final' := by
  induction h generalizing steps' pieces' final' with
  | done hdone =>
      cases h' with
      | done => exact ⟨rfl, rfl, rfl⟩
      | step hdone' =>
          rw [hdone] at hdone'
          contradiction
  | step hdone hstep _ ih =>
      cases h' with
      | done hdone' =>
          rw [hdone] at hdone'
          contradiction
      | step _ hstep' hrest' =>
          obtain ⟨rfl, rfl, hevents⟩ := hstep.unique hset hscan hstep'
          obtain ⟨heq, -⟩ := List.cons.inj hevents
          rw [heq]
          obtain ⟨rfl, rfl, rfl⟩ := ih (hstep.sound hset hscan) hrest'
          exact ⟨rfl, rfl, rfl⟩

-- The whole run is one in the other set.
theorem Runs.moveTo (hset : set.Sound) (htwins : set.Twins set' id id' Inner)
    (hscan : scan.Sound set) (htable : scan.table = id) (h : scan.Runs set steps pieces final) :
    ∃ pieces', (scan.moveTo id').Runs set' (steps.map (Event.moveTo id')) pieces'
        (final.moveTo id') ∧
      List.Forall₂ (Piece.Related Eq Inner) pieces pieces' := by
  induction h with
  | done hdone => exact ⟨[], .done hdone, .nil⟩
  | step hdone hstep _ ih =>
      obtain ⟨read, hpasses, -, -⟩ := hstep.passes hset hscan
      obtain ⟨own, hstep', hown⟩ := hstep.moveTo htwins htable
      obtain ⟨more, hrest', hmore⟩ :=
        ih (hstep.sound hset hscan) (hpasses.table.trans htable)
      exact ⟨own ++ more, .step hdone hstep' hrest', List.rel_append hown hmore⟩

end Scan

-- What a step hands out, by itself.
def Event.items (set : TableSet) : Event → List Item
  | .step scan _ =>
      match (scan.step set set.plainHost : ExceptT Fault Id _).run with
      | .ok (_, pieces) => pieces.map Piece.item
      | .error _ => []
  | .call _ => []

theorem Scan.Runs.items_eq {set : TableSet} (hset : set.Sound) {scan final : Scan}
    {steps : List Event} {pieces : List Piece} (hscan : scan.Sound set)
    (h : scan.Runs set steps pieces final) :
    steps.flatMap (Event.items set) = pieces.map Piece.item := by
  induction h with
  | done => rfl
  | @step scan won next calls pieces steps more final hdone hstep _ ih =>
      have hrun : (scan.step set set.plainHost : ExceptT Fault Id _).run = .ok (next, pieces) :=
        hstep.ok set.plainReading hset hscan
      rw [List.flatMap_cons, List.map_append, ih (hstep.sound hset hscan), Event.items, hrun]

theorem items_eq_of_related {Inner : Scan → Scan → Prop}
    (hinner : ∀ scan scan', Inner scan scan' →
      scan'.base = scan.base ∧ scan'.input = scan.input) {pieces pieces' : List Piece}
    (h : List.Forall₂ (Piece.Related Eq Inner) pieces pieces') :
    pieces'.map Piece.item = pieces.map Piece.item := by
  induction h with
  | nil => rfl
  | cons hpiece _ ih =>
      rw [List.map_cons, List.map_cons, ih]
      cases hpiece with
      | token heq => rw [heq]
      | nested hscans =>
          obtain ⟨hbase, hinput⟩ := hinner _ _ hscans
          rw [Piece.item, Piece.item, hbase, hinput]

namespace Stream

-- What levels have yet to give, the innermost first: those inside of the outer one tokens that
-- cover what is left of them, and the outer one tokens that fit the pieces of its steps to come.
def Owes (set : TableSet) :
    Nat → Level → List Level → List Token → List Event → Scan → Prop
  | _, level, [], tokens, steps, final => ∃ pieces, level.scan.Runs set steps pieces final ∧
      Fits ((level.pending ++ pieces).map Piece.item) tokens
  | start, level, outer :: waiting, tokens, steps, final =>
      ∃ own rest, tokens = own ++ rest ∧ Covers start own level.left ∧
        Owes set (level.scan.base + Text.size level.scan.input) outer waiting rest steps final

variable {set : TableSet} {stream stream' : Stream} {start : Nat} {events steps : List Event}
variable {tokens : List Token} {final : Scan}

-- A piece more, and the tokens that it becomes.
theorem Owes.cons {scan : Scan} {piece : Piece} {pending : List Piece} {waiting : List Level}
    {own : List Token} (hcovers : Covers start own piece.text) (hfits : Fits [piece.item] own)
    (h : Owes set (start + Text.size piece.text) ⟨scan, pending⟩ waiting tokens steps final) :
    Owes set start ⟨scan, piece :: pending⟩ waiting (own ++ tokens) steps final := by
  cases waiting with
  | nil =>
      obtain ⟨pieces, hruns, hrest⟩ := h
      exact ⟨pieces, hruns, hfits.append hrest⟩
  | cons outer waiting =>
      obtain ⟨inside, rest, rfl, hinside, hrest⟩ := h
      refine ⟨own ++ inside, rest, (List.append_assoc ..).symm, ?_, hrest⟩
      have hleft : Level.left ⟨scan, piece :: pending⟩ =
          piece.text ++ Level.left ⟨scan, pending⟩ := by
        simp [Level.left]
      rw [hleft]
      exact hcovers.append hinside

-- What is owed is the same before a move, but for the steps of the outer scan.
theorem Moves.owes (hset : set.Sound) (hstream : stream.Sound set start)
    (hdepth : stream.outer.depth = 0) (h : Moves set stream stream' events)
    (howes : Owes set start stream'.active stream'.waiting tokens steps final) :
    Owes set start stream.active stream.waiting tokens (events.filter Event.isOuter ++ steps)
      final := by
  cases h with
  | @enter scan inner rest waiting =>
      obtain ⟨hbase, -, ⟨-, hcursor, -, -⟩, -⟩ := hstream.active.cons
      obtain rfl : inner.base = start := hbase
      obtain ⟨own, behind, rfl, hcovers, hrest⟩ := howes
      have hown : Covers inner.base own inner.input := by
        simpa [Level.left, Scan.rest_of_start hcursor] using hcovers
      have hfits : Fits [.span inner.base inner.input] own := by
        have hspan : Fits [.span inner.base inner.input] (own ++ []) := .span hown .nil
        rwa [List.append_nil] at hspan
      exact .cons hown hfits hrest
  | @leave scan level waiting hdone =>
      have hscan : scan.Sound set := hstream.active.scan
      have hoffset := hstream.active.idle
      rw [Scan.offset, hscan.cursor_eq hdone] at hoffset
      refine ⟨[], tokens, rfl, ?_, hoffset ▸ howes⟩
      simp [Level.left, hscan.isDone_iff.mp hdone, Covers, Fills]
  | @step scan next pieces events waiting hdone hstep =>
      have hscan : scan.Sound set := hstream.active.scan
      obtain ⟨won, calls, rfl, hevents⟩ := hstep.outer_events
      rw [hevents]
      cases waiting with
      | nil =>
          obtain ⟨more, hruns, hfits⟩ := howes
          obtain hdepth : scan.depth = 0 := hdepth
          rw [if_pos hdepth]
          exact ⟨pieces ++ more, .step hdone hstep hruns, hfits⟩
      | cons outer waiting =>
          obtain ⟨-, hlevel, -, -, -⟩ := hstream
          obtain ⟨own, rest, rfl, hcovers, hrest⟩ := howes
          obtain ⟨read, hpasses, hfills, -⟩ := hstep.passes hset hscan
          rw [if_neg (by dsimp only at hlevel; omega)]
          refine ⟨own, rest, rfl, ?_, ?_⟩
          · simpa [Level.left, hpasses.rest, hfills.eq_flatMap] using hcovers
          · dsimp only at hrest ⊢
            rwa [hpasses.base, hpasses.input] at hrest

theorem Next.owes {answer : Option Token} (hset : set.Sound) (hstream : stream.Sound set start)
    (hdepth : stream.outer.depth = 0) (h : Next set stream answer stream' events)
    (howes : Owes set (start + Text.size (answer.toList.flatMap Token.text)) stream'.active
      stream'.waiting tokens steps final) :
    Owes set start stream.active stream.waiting (answer.toList ++ tokens)
      (events.filter Event.isOuter ++ steps) final := by
  induction h with
  | @token scan made rest waiting =>
      obtain ⟨hstart, hne, -, -⟩ := hstream.active.cons
      obtain rfl : made.start = start := hstart
      have hown : Covers made.start [made] made.text := by
        have hnone : Covers (made.start + Text.size made.text) [] [] := rfl
        simpa using Covers.cons hne hnone
      have htext : [made].flatMap Token.text = made.text := by simp
      rw [Option.toList_some, htext] at howes
      exact .cons hown (.token .nil) howes
  | finish => exact howes
  | move hmove _ ih =>
      obtain ⟨read, hpasses⟩ := hmove.outer hset hstream
      rw [List.filter_append, List.append_assoc]
      exact hmove.owes hset hstream hdepth
        (ih (hmove.sound hset hstream) (hpasses.depth.trans hdepth) howes)

-- A stream whose outer scan has ended owes nothing more.
theorem Calls.owes {answers : List (Option Token)} {last : Scan} (hset : set.Sound)
    (hstream : stream.Sound set start) (hdepth : stream.outer.depth = 0)
    (h : Calls set stream answers ⟨⟨last, []⟩, []⟩ events) (hdone : last.isDone = true) :
    Owes set start stream.active stream.waiting (answers.filterMap id)
      (events.filter Event.isOuter) last := by
  generalize hfinal : (⟨⟨last, []⟩, []⟩ : Stream) = final at h
  induction h generalizing start with
  | nil =>
      subst hfinal
      exact ⟨[], .done hdone, .nil⟩
  | @cons stream answer between events answers final events' hnext _ ih =>
      obtain ⟨read, hpasses⟩ := hnext.outer hset hstream
      have hdepth' := hpasses.depth.trans hdepth
      have hbetween :
          between.Sound set (start + Text.size (answer.toList.flatMap Token.text)) := by
        cases answer with
        | none =>
            obtain ⟨-, -, hsound, -⟩ := hnext.of_none hset hstream
            exact hsound
        | some token =>
            obtain ⟨-, -, -, hsound⟩ := hnext.of_some hset hstream
            simpa using hsound
      have howes := hnext.owes hset hstream hdepth (ih hbetween hdepth' hfinal)
      rw [List.filter_append]
      cases answer with
      | none => exact howes
      | some token => exact howes

end Stream

-- The whole run of a lexer over a text: its tokens, with a memory of delegations or without one,
-- the outer scan at its end, and all that was recorded.
structure TableSet.Drains (set : TableSet) (id : TableId) (text : Text) (tokens : List Token)
    (outer : Scan) (events : List Event) : Prop where
  whole : set.tokens id text = .ok tokens
  calls : ∃ stream final, set.open? id text = some stream ∧ final.outer = outer ∧
    (stream.calls set set.tracer (tokens.length + 1)).run [] =
      (.ok (tokens.map some ++ [none], final), events) ∧
    ∃ session, (stream.calls set set.liveHost (tokens.length + 1)).run Session.empty =
      (.ok (tokens.map some ++ [none], final), session)

-- A whole run is made of calls.
theorem TableSet.Drains.exists_calls {set : TableSet} (hset : set.Sound) {lexer : TableId}
    {text : Text} {tokens : List Token} {outer : Scan} {events : List Event}
    (h : set.Drains lexer text tokens outer events) :
    ∃ stream final, set.open? lexer text = some stream ∧ final.outer = outer ∧
      Stream.Calls set stream (tokens.map some ++ [none]) final events := by
  obtain ⟨stream, final, hopen, houter, hrun, -⟩ := h.calls
  have hstream := Stream.open?_sound hset hopen
  obtain ⟨answers, final', events', hlength, hcalls⟩ :=
    Stream.exists_calls hset hstream (tokens.length + 1)
  have hrun' := hcalls.ok set.tracerReading hset hstream []
  rw [hlength] at hrun'
  obtain ⟨hgiven, rfl⟩ := Prod.mk.inj (hrun.symm.trans hrun')
  obtain ⟨rfl, rfl⟩ := Prod.mk.inj (Except.ok.inj hgiven)
  exact ⟨stream, final, hopen, houter, hcalls⟩

namespace TableSet.BuiltAs

variable {grammars : List Grammar} {set : TableSet}

theorem drains_of_calls (h : BuiltAs grammars set) {lexer : TableId} {text : Text}
    {stream final : Stream} (hopen : set.open? lexer text = some stream) {tokens : List Token}
    {events : List Event}
    (hcalls : Stream.Calls set stream (tokens.map some ++ [none]) final events) :
    set.Drains lexer text tokens final.outer events := by
  have hstream := Stream.open?_sound h.sound hopen
  have hcount : (tokens.map some ++ [none]).length = tokens.length + 1 := by simp
  have htraced := hcalls.ok set.tracerReading h.sound hstream []
  obtain ⟨session, hlive, -⟩ :=
    hcalls.ok h.reading h.sound hstream Session.empty (Session.empty_right set)
  rw [hcount] at htraced hlive
  exact ⟨hcalls.tokens_eq h.sound hopen, stream, final, hopen, rfl, htraced, session, hlive⟩

-- A run comes to its end, with the steps of its outer scan and tokens that fit their pieces.
theorem exists_drains (h : BuiltAs grammars set) {lexer : TableId} {table : Table}
    (htable : set.table? lexer = some table) (text : Text) :
    ∃ tokens final events pieces, set.Drains lexer text tokens final events ∧
      (Scan.start lexer table.root text).Runs set (events.filter Event.isOuter) pieces final ∧
      Fits (pieces.map Piece.item) tokens := by
  have hopen := Stream.open?_eq htable text
  have hstream := Stream.open?_sound h.sound hopen
  obtain ⟨tokens, final, events, -, hdone, hcalls, -⟩ := Stream.drain_ok h.sound hstream
  obtain ⟨pieces, hruns, hfits⟩ := hcalls.owes h.sound hstream rfl hdone
  have hgiven : (tokens.map some ++ [none]).filterMap id = tokens := by simp
  refine ⟨tokens, final, events, pieces, h.drains_of_calls hopen hcalls, hruns, ?_⟩
  rwa [← hgiven]

end TableSet.BuiltAs

namespace Stream

-- Whatever the other grammars are, the outer scan takes the same steps up to the number of its
-- table, and ends alike. What these steps hand out gives an outline that is the same in both sets,
-- and the tokens of each run differ only within its spans.
theorem outer_scan_independent {grammars grammars' : List Grammar} {options : Options}
    {set set' : TableSet} (hbuild : TableSet.build grammars options = .ok set)
    (hbuild' : TableSet.build grammars' options = .ok set') {grammar : Grammar}
    (hmem : grammar ∈ grammars) (hmem' : grammar ∈ grammars') {name : String}
    (hname : name ∈ grammar.names) (text : Text) :
    ∃ lexer lexer', set.id? name = some lexer ∧ set'.id? name = some lexer' ∧
      ∃ tokens tokens' final final' events events' outline,
        set.Drains lexer text tokens final events ∧
        set'.Drains lexer' text tokens' final' events' ∧
        events'.filter Event.isOuter =
          (events.filter Event.isOuter).map (Event.moveTo lexer') ∧
        final' = final.moveTo lexer' ∧
        outline = (events.filter Event.isOuter).flatMap (Event.items set) ∧
        outline = (events'.filter Event.isOuter).flatMap (Event.items set') ∧
        Fits outline tokens ∧ Fits outline tokens' := by
  obtain ⟨hbuilt, hgrammars⟩ := (TableSet.build_settles grammars options).of_ok hbuild
  obtain ⟨hbuilt', hgrammars'⟩ := (TableSet.build_settles grammars' options).of_ok hbuild'
  have hoptions := (TableSet.options_of_build hbuild').trans (TableSet.options_of_build hbuild).symm
  obtain ⟨lexer, table, hlexer, hgrammar, htable, has⟩ := hbuilt.of_mem hgrammars.names hmem hname
  obtain ⟨lexer', table', hlexer', hgrammar', htable', has'⟩ :=
    hbuilt'.of_mem hgrammars'.names hmem' hname
  obtain ⟨tokens, final, events, pieces, hdrains, hruns, hfits⟩ := hbuilt.exists_drains htable text
  obtain ⟨tokens', final', events', pieces', hdrains', hruns', hfits'⟩ :=
    hbuilt'.exists_drains htable' text
  -- what nested scans do is not asked for, only where they begin
  have htwins : set.Twins set' lexer lexer' fun scan scan' =>
      scan'.base = scan.base ∧ scan'.input = scan.input := by
    apply hbuilt.twins hgrammars hbuilt' hgrammars' hoptions hgrammar hgrammar'
    intros
    exact ⟨rfl, rfl⟩
  have hscan : (Scan.start lexer table.root text).Sound set :=
    Scan.fresh_sound hbuilt.sound htable (by simp) text 0 0
  have hscan' : (Scan.start lexer' table'.root text).Sound set' :=
    Scan.fresh_sound hbuilt'.sound htable' (by simp) text 0 0
  obtain ⟨moved, hmoved, hpieces⟩ := hruns.moveTo hbuilt.sound htwins hscan rfl
  have hstart : Scan.start lexer' table'.root text =
      (Scan.start lexer table.root text).moveTo lexer' := has.fresh_eq has' none text 0 0
  rw [← hstart] at hmoved
  obtain ⟨hsteps, rfl, hfinal⟩ := hruns'.unique hbuilt'.sound hscan' hmoved
  have hitems := items_eq_of_related (fun _ _ hinner => hinner) hpieces
  refine ⟨lexer, lexer', hlexer, hlexer', tokens, tokens', final, final', events, events',
    pieces.map Piece.item, hdrains, hdrains', hsteps, hfinal, ?_, ?_, hfits, hitems ▸ hfits'⟩
  · exact (hruns.items_eq hbuilt.sound hscan).symm
  · exact hitems.symm.trans (hruns'.items_eq hbuilt'.sound hscan').symm

theorem brackets_outer_scan_independent :
    ∃ set set', TableSet.build [.brackets, .letters] .sample = .ok set ∧
    TableSet.build [.sample, .digits, .brackets] .sample = .ok set' ∧
    Grammar.brackets ∈ [Grammar.brackets, .letters] ∧
    Grammar.brackets ∈ [Grammar.sample, .digits, .brackets] ∧
    "brackets" ∈ Grammar.brackets.names ∧
    ∃ lexer lexer', set.id? "brackets" = some lexer ∧ set'.id? "brackets" = some lexer' ∧
      ∃ tokens tokens' final final' events events' outline,
        set.Drains lexer "a<bc>d".toList tokens final events ∧
        set'.Drains lexer' "a<bc>d".toList tokens' final' events' ∧
        events'.filter Event.isOuter =
          (events.filter Event.isOuter).map (Event.moveTo lexer') ∧
        final' = final.moveTo lexer' ∧
        outline = (events.filter Event.isOuter).flatMap (Event.items set) ∧
        outline = (events'.filter Event.isOuter).flatMap (Event.items set') ∧
        Fits outline tokens ∧ Fits outline tokens' := by
  obtain ⟨⟨set, hbuild⟩, set', hbuild'⟩ := Grammar.brackets_builds
  have hmem : Grammar.brackets ∈ [Grammar.brackets, .letters] := by simp
  have hmem' : Grammar.brackets ∈ [Grammar.sample, .digits, .brackets] := by simp
  have hname : "brackets" ∈ Grammar.brackets.names := by decide
  exact ⟨set, set', hbuild, hbuild', hmem, hmem', hname,
    outer_scan_independent hbuild hbuild' hmem hmem' hname _⟩

end Stream

end StackLexer
