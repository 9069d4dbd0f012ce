import StackLexer.Proofs.Scan.Calls
import StackLexer.Proofs.Scan.Sample
import StackLexer.Proofs.Scan.Segments

namespace StackLexer

-- The action names the kind for the span: for the match, for one of its groups, or by what its
-- callback returns.
inductive Action.Names {δ : Type} (context : MatchView) : Action δ → Kind → Span → Prop where
  | token {kind} : Names context (.token kind) kind context.span
  | group {parts index kind span} (hpart : parts[index]? = some (.kind kind))
      (hspan : context.groupSpan? (index + 1) = some span) :
      Names context (.groups parts) kind span
  | callback {call kind span} (hmem : (kind, span) ∈ call.run context) :
      Names context (.callback call) kind span

-- Delegations name no kind.
theorem Action.Names.of_mapDelegations {δ ε : Type} {f : Nat → δ → ε} {action : Action δ}
    {context : MatchView} {kind : Kind} {span : Span}
    (h : (action.mapDelegations f).Names context kind span) : action.Names context kind span := by
  cases action with
  | token own =>
      cases h
      exact .token
  | delegate delegation => cases h
  | callback call =>
      cases h with
      | callback hmem => exact .callback hmem
  | groups parts =>
      cases h with
      | @group _ index _ _ hpart hspan =>
          rw [List.getElem?_mapIdx] at hpart
          obtain ⟨part, hget, hkind⟩ := Option.map_eq_some_iff.mp hpart
          cases part with
          | kind own =>
              obtain rfl := Part.kind.inj hkind
              exact .group hget hspan
          | delegate delegation => contradiction

-- The rule is what the entry is compiled to, in the place where it is written.
def Grammar.Writes (grammar : Grammar) (id : TableId) (entry : Entry) (rule : Rule) : Prop :=
  ∃ name entries place decl, grammar.states[rule.origin]? = some (name, entries) ∧
    entries[place]? = some entry ∧ entry.rule? = some decl ∧
    grammar.compileRule id name rule.origin place decl = .ok rule

namespace Grammar

variable {grammar : Grammar} {id : TableId} {entry : Entry} {rule : Rule}

theorem RuleFrom.writes (h : grammar.RuleFrom id rule) :
    ∃ entry, grammar.Writes id entry rule := by
  obtain ⟨place, decl, ⟨name, entries, entry, hstate, hentry, hdecl⟩, hrule⟩ := h
  exact ⟨entry, name, entries, place, decl, hstate, hentry, hdecl, hrule.compileRule_eq name⟩

theorem Writes.hasEntry (h : grammar.Writes id entry rule) :
    ∃ state, grammar.HasEntry state entry := by
  obtain ⟨name, entries, place, decl, hstate, hentry, -, -⟩ := h
  exact ⟨name, entries, List.mem_of_getElem? hstate, List.mem_of_getElem? hentry⟩

theorem Writes.ruleAs (h : grammar.Writes id entry rule) :
    ∃ place decl, entry.rule? = some decl ∧ grammar.RuleAs id rule.origin place decl rule := by
  obtain ⟨name, entries, place, decl, hstate, hentry, hdecl, hcompiled⟩ := h
  have hrule : grammar.HasRule name decl :=
    ⟨entry, ⟨entries, List.mem_of_getElem? hstate, List.mem_of_getElem? hentry⟩, hdecl⟩
  exact ⟨place, decl, hdecl, (compileRule_settles hrule place).of_ok hcompiled⟩

end Grammar

theorem Pattern.matchAt_empty {flags : MatchFlags} {pattern : Pattern}
    (h : compile "" flags = .ok pattern) {place : Place} {found : Match}
    (hmatch : pattern.matchAt place = some found) : found.span.stop = place.offset := by
  obtain rfl : ofExpr "" .empty = pattern := Except.ok.inj h
  obtain ⟨hit, hsearch, rfl⟩ := Option.map_eq_some_iff.mp hmatch
  exact Regex.Program.search_empty hsearch

-- An error of one character.
def Token.Stray (token : Token) : Prop := token.kind = .error ∧ ∃ c, token.text = [c]

-- The token is what the text of the scan has in the span.
structure Scan.Cuts (scan : Scan) (span : Span) (token : Token) : Prop where
  start : token.start = scan.base + span.start
  stop : token.stop = scan.base + span.stop
  text : scan.input.slice? span = some token.text

-- The rule won with a match of some text, and the token lies in it, where the action of the rule
-- names its kind. The rule is one that is written in the grammar of the scan.
def Scan.Names (grammars : List Grammar) (set : TableSet) (scan : Scan) (rule : Rule)
    (token : Token) : Prop :=
  ∃ state found grammar decl span own,
    scan.Faces set state (some (rule, found)) ∧ scan.cursor < found.span.stop ∧
    grammars[scan.table]? = some grammar ∧ grammar.Writes scan.table (.rule decl) rule ∧
    scan.Cuts span token ∧ scan.input.Inside found.span span ∧
    decl.action.Names (scan.view state found) token.kind own ∧
    own.start ≤ span.start ∧ span.stop ≤ own.stop

namespace Scan

variable {set : TableSet} {scan next : Scan} {state : State} {rule : Rule} {found : Match}
variable {made : Token} {pieces : List Piece} {events : List Event}

theorem errorTokens_stray {start : Nat} {text : Text} (h : .token made ∈ errorTokens start text) :
    made.Stray := by
  induction text generalizing start with
  | nil => contradiction
  | cons c text ih =>
      rcases List.mem_cons.mp h with heq | h
      · obtain rfl := Piece.token.inj heq
        exact ⟨rfl, c, rfl⟩
      · exact ih h

theorem delegated_stray {handle : Handle} {span : Span}
    (h : .token made ∈ scan.delegated set handle span) : made.Stray := by
  unfold delegated at h
  split at h
  · exact errorTokens_stray h
  · split at h
    · exact errorTokens_stray h
    · simp at h

-- A segment becomes a token of a kind only if it is claimed for that kind.
theorem piecesOf_token {segment : Segment (Part Handle)}
    (h : .token made ∈ scan.piecesOf set segment) :
    made.Stray ∨ ∃ kind span, segment = .claimed (.kind kind) span ∧
      made = ⟨kind, scan.base + span.start, (scan.input.slice? span).getD []⟩ := by
  cases segment with
  | unclaimed span => exact .inl (errorTokens_stray h)
  | claimed part span =>
      cases part with
      | delegate handle => exact .inl (delegated_stray h)
      | kind kind => exact .inr ⟨kind, span, rfl, Piece.token.inj (List.mem_singleton.mp h)⟩

-- The groups of a match are counted from one.
theorem view_groupSpan? {index : Nat} {span : Span} (h : found.groups[index]? = some (some span)) :
    (scan.view state found).groupSpan? (index + 1) = some span :=
  congrArg Option.join h

-- What of a match is claimed for a kind is part of what the action names the kind for.
theorem cut_names {kind : Kind} {span : Span}
    (h : .claimed (.kind kind) span ∈ scan.cut state rule found) :
    ∃ own, rule.action.Names (scan.view state found) kind own ∧
      own.start ≤ span.start ∧ span.stop ≤ own.stop := by
  unfold cut at h
  split at h
  case h_1 own haction =>
    obtain ⟨hkind, rfl⟩ := Segment.claimed.inj (List.mem_singleton.mp h)
    obtain rfl := Part.kind.inj hkind
    rw [haction]
    exact ⟨_, .token, Nat.le_refl _, Nat.le_refl _⟩
  case h_2 handle haction =>
    have hpart := (Segment.claimed.inj (List.mem_singleton.mp h)).1
    contradiction
  case h_3 parts haction =>
    obtain ⟨own, hmem, hinside⟩ := Segment.mem_partitionFrom h
    obtain ⟨index, hpart, hspan⟩ := exists_of_mem_groupPieces hmem
    rw [haction]
    exact ⟨own, .group hpart (view_groupSpan? hspan), hinside⟩
  case h_4 call haction =>
    obtain ⟨own, hmem, hinside⟩ := Segment.mem_partitionFrom h
    obtain ⟨⟨kind', span'⟩, hreturned, heq⟩ := List.mem_map.mp hmem
    obtain ⟨hkind, rfl⟩ := Prod.mk.inj heq
    obtain rfl := Part.kind.inj hkind
    rw [haction]
    exact ⟨span', .callback hreturned, hinside⟩

-- The rules of a state that a scan faces are written in the grammar of its table.
theorem Faces.writes {grammars : List Grammar} (hbuilt : TableSet.BuiltAs grammars set)
    (hfaces : scan.Faces set state (some (rule, found))) :
    ∃ grammar entry, grammars[scan.table]? = some grammar ∧
      grammar.Writes scan.table entry rule := by
  obtain ⟨table, htable, hstate, hrule⟩ := hfaces.rule_mem
  obtain ⟨grammar, hgrammar, has⟩ := hbuilt.grammar htable
  obtain ⟨entry, hwrites⟩ := (has.rules state hstate rule hrule).writes
  exact ⟨grammar, entry, hgrammar, hwrites⟩

-- A default matches no text.
theorem Faces.stop_of_default {grammar : Grammar} {transition : Transition}
    (hfaces : scan.Faces set state (some (rule, found)))
    (hwrites : grammar.Writes scan.table (.default transition) rule) :
    found.span.stop = scan.cursor := by
  obtain ⟨place, decl, hdecl, hrule⟩ := hwrites.ruleAs
  obtain rfl := Option.some.inj hdecl
  obtain ⟨-, start, hplace, hmatch⟩ := hfaces.winner
  rw [Pattern.matchAt_empty hrule.pattern hmatch, Text.place?_offset hplace]

theorem Faces.names {grammars : List Grammar} (hbuilt : TableSet.BuiltAs grammars set)
    (hscan : scan.Sound set) (hfaces : scan.Faces set state (some (rule, found)))
    (hspan : scan.cursor < found.span.stop) {kind : Kind} {span : Span}
    (hmem : .claimed (.kind kind) span ∈ scan.cut state rule found) :
    scan.Names grammars set rule
      ⟨kind, scan.base + span.start, (scan.input.slice? span).getD []⟩ := by
  obtain ⟨grammar, entry, hgrammar, hwrites⟩ := hfaces.writes hbuilt
  obtain ⟨hstart, -, -⟩ := hfaces.match_span hscan
  have hinside := (hfaces.cut_tiles hscan hspan).inside hscan.cursor _ hmem
  obtain ⟨part, hslice⟩ : ∃ part, scan.input.slice? span = some part := hinside.slice?
  obtain ⟨own, hnames, hown⟩ := cut_names hmem
  obtain ⟨place, decl, hdecl, hrule⟩ := hwrites.ruleAs
  rw [hrule.action] at hnames
  have hcuts : scan.Cuts span ⟨kind, scan.base + span.start, part⟩ := by
    refine ⟨rfl, ?_, hslice⟩
    rw [← Text.slice?_size hslice, ← Nat.add_assoc]
    rfl
  have hwithin : scan.input.Inside found.span span :=
    ⟨hstart.trans_le hinside.start, hinside.le, hinside.stop, hinside.boundaries⟩
  cases entry with
  | rule own =>
      obtain rfl := Option.some.inj hdecl
      rw [hslice]
      exact ⟨state, found, grammar, own, span, _, hfaces, hspan, hgrammar, hwrites, hcuts, hwithin,
        hnames.of_mapDelegations, hown⟩
  | default transition =>
      have hstop := hfaces.stop_of_default hwrites
      omega
  | «include» target => contradiction

-- What a step can make: an error of one character, or a token that the winner names.
theorem Steps.token {grammars : List Grammar} (hbuilt : TableSet.BuiltAs grammars set)
    (hscan : scan.Sound set) (h : Steps set scan next pieces events)
    (hmem : .token made ∈ pieces) :
    made.Stray ∨ ∃ rule, .step scan (some rule) ∈ events ∧ scan.Names grammars set rule made := by
  cases h with
  | fail => exact .inl (errorTokens_stray hmem)
  | stay => contradiction
  | force => exact .inl (errorTokens_stray hmem)
  | @take state rule found hfaces hspan =>
      obtain ⟨segment, hsegment, hpiece⟩ := List.mem_flatMap.mp hmem
      rcases piecesOf_token hpiece with hstray | ⟨kind, span, rfl, rfl⟩
      · exact .inl hstray
      · exact .inr ⟨rule, List.mem_cons_self, hfaces.names hbuilt hscan hspan hsegment⟩

-- Where a default wins, nothing is made of its match; at the limit, the next character is skipped.
theorem Steps.of_default (h : Steps set scan next pieces events)
    (hmem : .step scan (some rule) ∈ events) {grammar : Grammar} {transition : Transition}
    (hwrites : grammar.Writes scan.table (.default transition) rule) :
    pieces = [] ∨ set.options.maxEmptySteps ≤ scan.emptySteps ∧
      ∃ c, pieces = [.token ⟨.error, scan.offset, [c]⟩] := by
  obtain ⟨-, state, won, hfaces, hwon⟩ := h.of_mem hmem
  obtain ⟨⟨own, found⟩, rfl, rfl⟩ := Option.map_eq_some_iff.mp hwon.symm
  have hstop := hfaces.stop_of_default hwrites
  rcases h.of_winner hfaces with ⟨hspan, -⟩ | ⟨-, -, hnone⟩ | ⟨-, hlimit, c, -, hskipped⟩
  · omega
  · exact .inl hnone
  · exact .inr ⟨hlimit, c, hskipped⟩

end Scan

namespace Stream

variable {set : TableSet} {stream stream' : Stream} {events log : List Event} {start : Nat}

-- A step on record has made the token.
def Made (set : TableSet) (log : List Event) (token : Token) : Prop :=
  ∃ (scan next : Scan) (pieces : List Piece) (events : List Event), scan.Sound set ∧
    scan.Steps set next pieces events ∧ .token token ∈ pieces ∧ events ⊆ log

theorem Made.mono {log' : List Event} {token : Token} (h : Made set log token)
    (hsub : log ⊆ log') : Made set log' token := by
  obtain ⟨scan, next, pieces, events, hscan, hstep, hmem, hevents⟩ := h
  exact ⟨scan, next, pieces, events, hscan, hstep, hmem, List.Subset.trans hevents hsub⟩

theorem Made.origin {grammars : List Grammar} (hbuilt : TableSet.BuiltAs grammars set)
    (hset : set.Sound) {token : Token} (h : Made set log token) :
    ∃ scan won next pieces, .step scan won ∈ log ∧
      (scan.step set set.plainHost).run = .ok (next, pieces) ∧ .token token ∈ pieces ∧
      (token.Stray ∨ ∃ rule, won = some rule ∧ scan.Names grammars set rule token) := by
  obtain ⟨scan, next, pieces, events, hscan, hstep, hmem, hevents⟩ := h
  have hok := hstep.ok set.plainReading hset hscan
  rcases hstep.token hbuilt hscan hmem with hstray | ⟨rule, hrule, hnames⟩
  · obtain ⟨-, won, calls, -, rfl, -⟩ := hstep.records
    exact ⟨scan, _, next, pieces, hevents List.mem_cons_self, hok, hmem, .inl hstray⟩
  · exact ⟨scan, some rule, next, pieces, hevents hrule, hok, hmem, .inr ⟨rule, rfl, hnames⟩⟩

-- The tokens that the level has not handed out yet were made by steps on record.
def Holds (set : TableSet) (log : List Event) (level : Level) : Prop :=
  ∀ token, .token token ∈ level.pending → Made set log token

theorem Holds.mono {log' : List Event} {level : Level} (h : Holds set log level)
    (hsub : log ⊆ log') : Holds set log' level :=
  fun token hmem => (h token hmem).mono hsub

def Recorded (set : TableSet) (log : List Event) (stream : Stream) : Prop :=
  Holds set log stream.active ∧ ∀ level ∈ stream.waiting, Holds set log level

theorem recorded_ofScan (set : TableSet) (scan : Scan) : Recorded set [] (.ofScan scan) :=
  ⟨by simp [Holds, ofScan], by simp [ofScan]⟩

theorem Moves.recorded (hstream : stream.Sound set start) (h : Moves set stream stream' events)
    (hlog : Recorded set log stream) : Recorded set (log ++ events) stream' := by
  obtain ⟨hactive, hwaiting⟩ := hlog
  cases h with
  | enter =>
      rw [List.append_nil]
      refine ⟨by simp [Holds], List.forall_mem_cons.mpr ⟨fun token hmem => ?_, hwaiting⟩⟩
      exact hactive token (List.mem_cons_of_mem _ hmem)
  | leave =>
      rw [List.append_nil]
      exact List.forall_mem_cons.mp hwaiting
  | step hdone hstep =>
      have hsub := List.subset_append_left log events
      refine ⟨fun token hmem => ?_, fun level hmem => (hwaiting level hmem).mono hsub⟩
      exact ⟨_, _, _, _, hstream.active.scan, hstep, hmem, List.subset_append_right _ _⟩

theorem Next.recorded {answer : Option Token} (hset : set.Sound) (hstream : stream.Sound set start)
    (h : Next set stream answer stream' events) (hlog : Recorded set log stream) :
    Recorded set (log ++ events) stream' ∧ ∀ token ∈ answer, Made set (log ++ events) token := by
  induction h generalizing log with
  | token =>
      rw [List.append_nil]
      obtain ⟨hactive, hwaiting⟩ := hlog
      refine ⟨⟨fun made hmem => hactive made (List.mem_cons_of_mem _ hmem), hwaiting⟩, ?_⟩
      rintro made ⟨⟩
      exact hactive _ List.mem_cons_self
  | finish =>
      rw [List.append_nil]
      exact ⟨hlog, by simp⟩
  | move hmove _ ih =>
      rw [← List.append_assoc]
      exact ih (hmove.sound hset hstream) (hmove.recorded hstream hlog)

-- Every token of a run was made by a step of it.
theorem Calls.made {answers : List (Option Token)} (hset : set.Sound)
    (hstream : stream.Sound set start) (h : Calls set stream answers stream' events)
    (hlog : Recorded set log stream) :
    ∀ token, some token ∈ answers → Made set (log ++ events) token := by
  induction h generalizing start log with
  | nil => simp
  | @cons stream answer between events answers final events' hnext _ ih =>
      obtain ⟨start', hbetween⟩ := hnext.sound hset hstream
      obtain ⟨hheld, hanswer⟩ := hnext.recorded hset hstream hlog
      intro token hmem
      rw [← List.append_assoc]
      rcases List.mem_cons.mp hmem with heq | hmem
      · exact (hanswer token heq.symm).mono (List.subset_append_left _ _)
      · exact ih hbetween hheld token hmem

end Stream

-- Every token of a run was made by a step on record, and is an error of one character, or one that
-- the winner of the step names. Nothing is made of a match of a default. If no rule names the error
-- kind, all errors have one character.
theorem token_provenance {grammars : List Grammar} {options : Options} {set : TableSet}
    (hbuild : TableSet.build grammars options = .ok set) {lexer : TableId} {table : Table}
    (htable : set.table? lexer = some table) {state? : Option StateId}
    (hstate : ∀ state ∈ state?, state < table.states.length) (text : Text)
    (base depth count : Nat) :
    ∃ answers final log,
      (Stream.calls set set.tracer count
        (.ofScan (.fresh lexer table.root state? text base depth))).run.run [] =
          (.ok (answers, final), log) ∧
      (∀ token, some token ∈ answers → ∃ scan won next pieces, .step scan won ∈ log ∧
        (scan.step set set.plainHost).run = .ok (next, pieces) ∧ .token token ∈ pieces ∧
        (token.Stray ∨ ∃ rule, won = some rule ∧ scan.Names grammars set rule token)) ∧
      (∀ scan rule, .step scan (some rule) ∈ log →
        ∀ (grammar : Grammar) transition, grammar.Writes scan.table (.default transition) rule →
          ∃ next pieces, (scan.step set set.plainHost).run = .ok (next, pieces) ∧
            (pieces = [] ∨ set.options.maxEmptySteps ≤ scan.emptySteps ∧
              ∃ c, pieces = [.token ⟨.error, scan.offset, [c]⟩])) ∧
      ((∀ grammar ∈ grammars, ∀ state decl, grammar.HasEntry state (.rule decl) →
          ∀ context span, ¬ decl.action.Names context .error span) →
        ∀ token, some token ∈ answers → token.kind = .error → ∃ c, token.text = [c]) := by
  have hset := TableSet.sound_of_build hbuild
  have hbuilt := ((TableSet.build_settles grammars options).of_ok hbuild).1
  have hstart := Stream.ofScan_sound (Scan.fresh_sound hset htable hstate text base depth) rfl
  obtain ⟨answers, final, events, -, hcalls, hrun⟩ := Stream.calls_ok hset hstart count
  have hmade := hcalls.made hset hstart (Stream.recorded_ofScan set _)
  have horigin := fun token hmem => (hmade token hmem).origin hbuilt hset
  refine ⟨answers, final, [] ++ events, hrun set.tracerReading [], horigin, ?_, ?_⟩
  · intro scan rule hmem grammar transition hwrites
    obtain ⟨other, next, pieces, own, hscan, -, hstep, hown⟩ := hcalls.taken hset hstart _ hmem
    obtain ⟨rfl, -⟩ := hstep.of_mem hown
    exact ⟨next, pieces, hstep.ok set.plainReading hset hscan, hstep.of_default hown hwrites⟩
  · intro hnone token hmem herror
    obtain ⟨scan, won, next, pieces, -, -, -, hstray | ⟨rule, -, hnames⟩⟩ := horigin token hmem
    · exact hstray.2
    · obtain ⟨state, found, grammar, decl, span, own, -, -, hgrammar, hwrites, -, -, hkind, -⟩ :=
        hnames
      obtain ⟨name, hentry⟩ := hwrites.hasEntry
      rw [herror] at hkind
      exact absurd hkind (hnone grammar (List.mem_of_getElem? hgrammar) name decl hentry _ _)

-- The kinds of the sample are those of its rules; it has no groups with a kind.
theorem Grammar.sample_names {state : String} {decl : RuleDecl}
    (hentry : sample.HasEntry state (.rule decl)) (context : MatchView) (span : Span) :
    ¬ decl.action.Names context .error span := by
  obtain ⟨entries, hstate, hmem⟩ := hentry
  have hstates : sample.states =
      [("blank", [.rule ⟨" +", .token .whitespace, ⟨[.pop 1]⟩⟩, .default ⟨[.pop 1]⟩]),
       ("root",
        [.rule ⟨"<([<-z]*)>", .groups [.delegate ⟨.this, none⟩], ⟨[]⟩⟩,
         .rule ⟨"[a-z]+", .token .name, ⟨[]⟩⟩,
         .rule ⟨"[0-9]+", .callback ⟨fun _ => [(.number, ⟨0, 1⟩)]⟩, ⟨[]⟩⟩,
         .default ⟨[.push "blank"]⟩])] := rfl
  simp only [hstates, List.mem_cons, List.not_mem_nil, or_false, Prod.mk.injEq] at hstate
  intro hnames
  rcases hstate with ⟨-, rfl⟩ | ⟨-, rfl⟩
  · simp only [List.mem_cons, List.not_mem_nil, Entry.rule.injEq, reduceCtorEq, or_false] at hmem
    subst hmem
    cases hnames
  · simp only [List.mem_cons, List.not_mem_nil, Entry.rule.injEq, reduceCtorEq, or_false] at hmem
    rcases hmem with rfl | rfl | rfl
    · cases hnames with
      | group hpart => simpa using List.mem_of_getElem? hpart
    · cases hnames
    · cases hnames with
      | callback hmem => simp at hmem

-- A run in which some tokens are errors, and some are not.
theorem Grammar.sample_gives :
    ∃ set table, TableSet.build [sample] .sample = .ok set ∧ set.table? 0 = some table ∧
      ∃ given,
        ((Stream.calls set set.tracer 9
          (.ofScan (.fresh 0 table.root none "a !<<<b>>>12".toList 0 0))).run.run []).1 =
            .ok given ∧
        ∀ kind ∈ [Kind.error, .name], ∃ token, some token ∈ given.1 ∧ token.kind = kind := by
  have hgives : ((TableSet.build [sample] .sample).toOption.any fun set =>
      (set.table? 0).any fun table => (((Stream.calls set set.tracer 9
        (.ofScan (.fresh 0 table.root none "a !<<<b>>>12".toList 0 0))).run.run []).1).toOption.any
          fun given => [Kind.error, .name].all fun kind =>
            given.1.any fun answer => answer.any fun token => token.kind == kind) = true := by
    decide +kernel
  obtain ⟨set, hbuild, hgives⟩ := exists_ok_of_any hgives
  obtain ⟨table, htable, hgives⟩ := (Option.any_eq_true _ _).mp hgives
  obtain ⟨given, hgiven, hgives⟩ := exists_ok_of_any hgives
  refine ⟨set, table, hbuild, htable, given, hgiven, fun kind hkind => ?_⟩
  obtain ⟨answer, hmem, hanswer⟩ := List.any_eq_true.mp (List.all_eq_true.mp hgives kind hkind)
  obtain ⟨token, rfl, htoken⟩ := (Option.any_eq_true _ _).mp hanswer
  exact ⟨token, hmem, beq_iff_eq.mp htoken⟩

theorem sample_token_provenance :
    ∃ set table, TableSet.build [.sample] .sample = .ok set ∧ set.table? 0 = some table ∧
      ∃ answers final log,
        (Stream.calls set set.tracer 9
          (.ofScan (.fresh 0 table.root none "a !<<<b>>>12".toList 0 0))).run.run [] =
            (.ok (answers, final), log) ∧
        (∃ token, some token ∈ answers ∧ token.kind = .error) ∧
        (∀ token, some token ∈ answers → token.kind = .error → ∃ c, token.text = [c]) ∧
        ∃ token scan rule, some token ∈ answers ∧ token.kind = .name ∧
          .step scan (some rule) ∈ log ∧ scan.Names [.sample] set rule token := by
  obtain ⟨set, table, hbuild, htable, given, hgiven, htokens⟩ := Grammar.sample_gives
  have hstate : ∀ state ∈ (none : Option StateId), state < table.states.length := by simp
  obtain ⟨answers, final, log, hrun, horigin, -, herrors⟩ :=
    token_provenance hbuild htable hstate "a !<<<b>>>12".toList 0 0 9
  rw [hrun] at hgiven
  obtain rfl := Except.ok.inj hgiven
  refine ⟨set, table, hbuild, htable, answers, final, log, hrun, htokens _ (by simp), ?_, ?_⟩
  · refine herrors fun grammar hgrammar state decl hentry context span => ?_
    obtain rfl := List.mem_singleton.mp hgrammar
    exact Grammar.sample_names hentry context span
  · obtain ⟨token, hmem, hkind⟩ := htokens .name (by simp)
    obtain ⟨scan, won, next, pieces, hstep, -, -, hcase⟩ := horigin token hmem
    rcases hcase with ⟨herror, -⟩ | ⟨rule, rfl, hnames⟩
    · rw [hkind] at herror
      contradiction
    · exact ⟨token, scan, rule, hmem, hkind, hstep, hnames⟩

end StackLexer
