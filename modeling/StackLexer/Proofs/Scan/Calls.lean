import StackLexer.Proofs.Scan.Next

namespace StackLexer

-- The tokens lie end to end from an offset on, none is empty, and together they give the text.
def Covers (start : Nat) (tokens : List Token) (text : Text) : Prop :=
  Fills start (tokens.map .token) text

namespace Covers

variable {start : Nat} {token : Token} {tokens first second : List Token} {text text' : Text}

theorem nil_iff : Covers start [] text ↔ text = [] := Iff.rfl

theorem cons_iff : Covers start (token :: tokens) text ↔
    token.start = start ∧ token.text ≠ [] ∧
      ∃ after, text = token.text ++ after ∧ Covers token.stop tokens after := by
  constructor
  · rintro ⟨rfl, hne, after, htext, hrest⟩
    exact ⟨rfl, hne, after, htext, hrest⟩
  · rintro ⟨rfl, hne, after, htext, hrest⟩
    exact ⟨rfl, hne, after, htext, hrest⟩

theorem cons (hne : token.text ≠ [])
    (h : Covers (token.start + Text.size token.text) tokens text) :
    Covers token.start (token :: tokens) (token.text ++ text) :=
  ⟨rfl, hne, text, rfl, h⟩

theorem append (hfirst : Covers start first text)
    (hsecond : Covers (start + Text.size text) second text') :
    Covers start (first ++ second) (text ++ text') := by
  unfold Covers
  rw [List.map_append]
  exact Fills.append hfirst hsecond

-- The first tokens cover a first part of the text, and the others what is behind it.
theorem of_append (h : Covers start (first ++ second) text) :
    ∃ covered after, text = covered ++ after ∧ Covers start first covered ∧
      Covers (start + Text.size covered) second after := by
  induction first generalizing start text with
  | nil => exact ⟨[], text, rfl, rfl, h⟩
  | cons token first ih =>
    obtain ⟨rfl, hne, rest, rfl, hrest⟩ := cons_iff.mp h
    obtain ⟨covered, after, rfl, hfirst, hsecond⟩ := ih hrest
    refine ⟨token.text ++ covered, after, (List.append_assoc ..).symm, ?_, ?_⟩
    · exact .cons hne hfirst
    · rwa [Text.size_append, ← Nat.add_assoc]

-- The text of a token is a part of what is covered, and the token starts where it does.
theorem exists_cut (h : Covers start tokens text) (hmem : token ∈ tokens) :
    ∃ before after, text = before ++ token.text ++ after ∧
      token.start = start + Text.size before := by
  obtain ⟨first, second, rfl⟩ := List.append_of_mem hmem
  obtain ⟨before, rest, rfl, -, hrest⟩ := h.of_append
  obtain ⟨hstart, -, after, rfl, -⟩ := cons_iff.mp hrest
  exact ⟨before, after, (List.append_assoc ..).symm, hstart⟩

theorem within (h : Covers start tokens text) :
    ∀ token ∈ tokens, start ≤ token.start ∧ token.stop ≤ start + Text.size text := by
  intro token hmem
  obtain ⟨before, after, rfl, hstart⟩ := h.exists_cut hmem
  rw [Token.stop, hstart, Text.size_append, Text.size_append]
  omega

theorem length_le (h : Covers start tokens text) : tokens.length ≤ text.length := by
  induction tokens generalizing start text with
  | nil => exact Nat.zero_le _
  | cons token tokens ih =>
      obtain ⟨-, hne, after, rfl, hrest⟩ := cons_iff.mp h
      have hpos := List.length_pos_iff.mpr hne
      have hlength := ih hrest
      simp only [List.length_cons, List.length_append]
      omega

end Covers

namespace Stream

-- A number of calls, whether or not a token comes.
def calls {m : Type → Type} [Monad m] (set : TableSet) (host : Host m) :
    (count : Nat) → Stream → ExceptT Fault m (List (Option Token) × Stream)
  | 0, stream => return ([], stream)
  | count + 1, stream => do
      let (answer, stream) ← stream.next set host
      let (answers, final) ← calls set host count stream
      return (answer :: answers, final)

-- What calls one after another can do.
inductive Calls (set : TableSet) : Stream → List (Option Token) → Stream → List Event → Prop where
  | nil {stream} : Calls set stream [] stream []
  | cons {stream answer between events answers final events'}
      (hnext : Next set stream answer between events)
      (hcalls : Calls set between answers final events') :
      Calls set stream (answer :: answers) final (events ++ events')

variable {set : TableSet} {stream final : Stream} {events : List Event} {start : Nat}

-- The tokens so far are the text that is no longer left.
theorem Calls.covers {answers : List (Option Token)} (hset : set.Sound)
    (hstream : stream.Sound set start) (h : Calls set stream answers final events) :
    ∃ taken, Covers start (answers.filterMap id) taken ∧ stream.left = taken ++ final.left ∧
      final.Sound set (start + Text.size taken) := by
  induction h generalizing start with
  | nil => exact ⟨[], rfl, rfl, hstream⟩
  | @cons stream answer between events answers final events' hnext _ ih =>
      cases answer with
      | none =>
          obtain ⟨hleft, hend, hsound, -⟩ := hnext.of_none hset hstream
          obtain ⟨taken, hcovers, htaken, hfinal⟩ := ih hsound
          exact ⟨taken, hcovers, by rw [hleft, ← hend, htaken], hfinal⟩
      | some token =>
          obtain ⟨rfl, hne, hleft, hsound⟩ := hnext.of_some hset hstream
          obtain ⟨taken, hcovers, htaken, hfinal⟩ := ih hsound
          refine ⟨token.text ++ taken, .cons hne hcovers, ?_, ?_⟩
          · rw [hleft, htaken, List.append_assoc]
          · rwa [Text.size_append, ← Nat.add_assoc]

-- Nothing is left behind a call that gave no token.
theorem Calls.left_of_none {answers : List (Option Token)} (hset : set.Sound)
    (hstream : stream.Sound set start) (h : Calls set stream answers final events)
    (hnone : none ∈ answers) : final.left = [] := by
  induction h generalizing start with
  | nil => simp at hnone
  | @cons stream answer between events answers final events' hnext hcalls ih =>
      obtain ⟨start', hbetween⟩ := hnext.sound hset hstream
      rcases List.mem_cons.mp hnone with rfl | hnone
      · obtain ⟨-, hend, -, -⟩ := hnext.of_none hset hstream
        obtain ⟨taken, -, htaken, -⟩ := hcalls.covers hset hbetween
        rw [hend] at htaken
        exact (List.append_eq_nil_iff.mp htaken.symm).2
      · exact ih hbetween hnone

theorem Calls.outer {answers : List (Option Token)} (hset : set.Sound)
    (hstream : stream.Sound set start) (h : Calls set stream answers final events) :
    ∃ read, stream.outer.Passes final.outer read := by
  induction h generalizing start with
  | nil => exact ⟨[], .refl _⟩
  | @cons stream answer between events answers final events' hnext _ ih =>
      obtain ⟨read, hfirst⟩ := hnext.outer hset hstream
      obtain ⟨start', hbetween⟩ := hnext.sound hset hstream
      obtain ⟨read', hrest⟩ := ih hbetween
      exact ⟨read ++ read', hfirst.trans hrest⟩

section Taken

variable {stream' : Stream} {answer : Option Token}

-- The event is one of a step that a sound scan under way has taken.
def Taken (set : TableSet) (event : Event) : Prop :=
  ∃ (scan next : Scan) (pieces : List Piece) (events : List Event), scan.Sound set ∧
    scan.isDone = false ∧ scan.Steps set next pieces events ∧ event ∈ events

theorem Moves.taken (hstream : stream.Sound set start) (h : Moves set stream stream' events) :
    ∀ event ∈ events, Taken set event := by
  cases h with
  | enter => simp
  | leave => simp
  | step hdone hstep =>
      exact fun event hmem => ⟨_, _, _, _, hstream.active.scan, hdone, hstep, hmem⟩

theorem Next.taken (hset : set.Sound) (hstream : stream.Sound set start)
    (h : Next set stream answer stream' events) : ∀ event ∈ events, Taken set event := by
  induction h with
  | token => simp
  | finish => simp
  | move hmove _ ih =>
      exact List.forall_mem_append.mpr ⟨hmove.taken hstream, ih (hmove.sound hset hstream)⟩

-- All that a run records comes from its steps.
theorem Calls.taken {answers : List (Option Token)} (hset : set.Sound)
    (hstream : stream.Sound set start) (h : Calls set stream answers final events) :
    ∀ event ∈ events, Taken set event := by
  induction h generalizing start with
  | nil => simp
  | cons hnext _ ih =>
      obtain ⟨start', hbetween⟩ := hnext.sound hset hstream
      exact List.forall_mem_append.mpr ⟨hnext.taken hset hstream, ih hbetween⟩

-- A step on record is one of a scan that faces the state of the rule that won.
theorem Taken.faces {scan : Scan} {won : Option Rule} (h : Taken set (.step scan won)) :
    scan.Sound set ∧ scan.isDone = false ∧
      ∃ state found, scan.Faces set state found ∧ won = found.map (·.1) := by
  obtain ⟨scan', next, pieces, events, hscan, hdone, hstep, hmem⟩ := h
  obtain ⟨rfl, hwinner⟩ := hstep.of_mem hmem
  exact ⟨hscan, hdone, hwinner⟩

theorem Taken.winner {scan : Scan} {rule : Rule} (h : Taken set (.step scan (some rule))) :
    scan.Sound set ∧ scan.isDone = false ∧
      ∃ state found, scan.Faces set state (some (rule, found)) := by
  obtain ⟨hscan, hdone, state, won, hfaces, hwon⟩ := h.faces
  obtain ⟨⟨rule', found⟩, rfl, rfl⟩ := Option.map_eq_some_iff.mp hwon.symm
  exact ⟨hscan, hdone, state, found, hfaces⟩

end Taken

section Runs

theorem calls_cons_ok {m : Type → Type} [Monad m] {host : Host m} (R : Reading set host)
    {count : Nat} {answer : Option Token} {answers : List (Option Token)} {between : Stream}
    {events' : List Event} (hnext : R.Ok (stream.next set host) (answer, between) events)
    (hcalls : R.Ok (calls set host count between) (answers, final) events') :
    R.Ok (calls set host (count + 1) stream) (answer :: answers, final) (events ++ events') := by
  refine R.ok_bind hnext ?_
  rw [← List.append_nil events']
  exact R.ok_bind hcalls (R.ok_pure _)

theorem exists_calls (hset : set.Sound) (hstream : stream.Sound set start) (count : Nat) :
    ∃ answers final events, answers.length = count ∧ Calls set stream answers final events := by
  induction count generalizing stream start with
  | zero => exact ⟨[], stream, [], rfl, .nil⟩
  | succ count ih =>
      obtain ⟨answer, between, events, hnext⟩ := exists_next hset hstream
      obtain ⟨start', hbetween⟩ := hnext.sound hset hstream
      obtain ⟨answers, final, events', hlength, hcalls⟩ := ih hbetween
      exact ⟨answer :: answers, final, _, by simp [hlength], .cons hnext hcalls⟩

-- What calls can do is what they do, with no fault.
theorem Calls.ok {m : Type → Type} [Monad m] {host : Host m} (R : Reading set host)
    (hset : set.Sound) (hstream : stream.Sound set start) {answers : List (Option Token)}
    (h : Calls set stream answers final events) :
    R.Ok (calls set host answers.length stream) (answers, final) events := by
  induction h generalizing start with
  | nil => exact R.ok_pure _
  | cons hnext _ ih =>
      obtain ⟨start', hbetween⟩ := hnext.sound hset hstream
      exact calls_cons_ok R (hnext.ok R hset hstream) (ih hbetween)

-- Any number of calls come back.
theorem calls_ok (hset : set.Sound) (hstream : stream.Sound set start) (count : Nat) :
    ∃ answers final events, answers.length = count ∧ Calls set stream answers final events ∧
      ∀ {m : Type → Type} [Monad m] {host : Host m} (R : Reading set host),
        R.Ok (calls set host count stream) (answers, final) events := by
  obtain ⟨answers, final, events, rfl, hcalls⟩ := exists_calls hset hstream count
  exact ⟨answers, final, events, rfl, hcalls, fun R => hcalls.ok R hset hstream⟩

theorem calls_ended {m : Type → Type} [Monad m] {host : Host m} (R : Reading set host)
    {scan : Scan} (hdone : scan.isDone = true) (count : Nat) :
    R.Ok (calls set host count ⟨⟨scan, []⟩, []⟩)
      (List.replicate count none, ⟨⟨scan, []⟩, []⟩) [] := by
  induction count with
  | zero => exact R.ok_pure _
  | succ count ih =>
      have hnext := R.ok_pure ((none : Option Token), (⟨⟨scan, []⟩, []⟩ : Stream))
      rw [← next_ended set host hdone] at hnext
      exact calls_cons_ok R hnext ih

-- Calls until there is no token, and any number of calls after that.
theorem drain_ok (hset : set.Sound) (hstream : stream.Sound set start) :
    ∃ tokens scan events,
      Covers start tokens stream.left ∧ scan.isDone = true ∧
      Calls set stream (tokens.map some ++ [none]) ⟨⟨scan, []⟩, []⟩ events ∧
      ∀ {m : Type → Type} [Monad m] {host : Host m} (R : Reading set host) (extra : Nat),
        R.Ok (calls set host (extra + 1 + tokens.length) stream)
          (tokens.map some ++ List.replicate (extra + 1) none, ⟨⟨scan, []⟩, []⟩) events := by
  generalize hlength : stream.left.length = length
  induction length using Nat.strongRecOn generalizing stream start with
  | ind length ih =>
      obtain ⟨answer, between, events, hnext, hrun⟩ := next_ok hset hstream
      cases answer with
      | none =>
          obtain ⟨hleft, -, -, scan, rfl, hdone⟩ := hnext.of_none hset hstream
          exact ⟨[], scan, _, hleft, hdone, .cons hnext .nil,
            fun R extra => calls_cons_ok R (hrun R) (calls_ended R hdone extra)⟩
      | some token =>
          obtain ⟨rfl, hne, hleft, hbetween⟩ := hnext.of_some hset hstream
          have hpos := List.length_pos_iff.mpr hne
          have hlt : between.left.length < length := by
            rw [← hlength, hleft, List.length_append]
            omega
          obtain ⟨tokens, scan, events', hcovers, hdone, hcalls, hrest⟩ := ih _ hlt hbetween rfl
          exact ⟨token :: tokens, scan, _, hleft ▸ .cons hne hcovers, hdone, .cons hnext hcalls,
            fun R extra => calls_cons_ok R (hrun R) (hrest R extra)⟩

-- Taking as many tokens as there are, or more, gives what calls give until one gives none.
theorem Calls.take_ok (hset : set.Sound) (hstream : stream.Sound set start) {tokens : List Token}
    (h : Calls set stream (tokens.map some ++ [none]) final events) {count : Nat}
    (hcount : tokens.length < count) :
    ∃ pulls, pulls.map (·.1) = tokens ∧
      ∀ {m : Type → Type} [Monad m] {host : Host m} (R : Reading set host),
        R.Ok (stream.take set host count) (pulls, final) events := by
  induction tokens generalizing stream start events count with
  | nil =>
      obtain ⟨less, rfl⟩ := Nat.exists_eq_add_of_le' hcount
      cases h with
      | cons hnext hrest =>
          cases hrest with
          | nil =>
              exact ⟨[], rfl, fun R => R.ok_bind (hnext.ok R hset hstream) (R.ok_pure _)⟩
  | cons token tokens ih =>
      obtain ⟨less, rfl⟩ := Nat.exists_eq_add_of_le' (Nat.lt_of_le_of_lt (Nat.zero_le _) hcount)
      cases h with
      | @cons _ _ between _ _ _ events' hnext hcalls =>
          obtain ⟨start', hbetween⟩ := hnext.sound hset hstream
          obtain ⟨pulls, rfl, hrest⟩ := ih hbetween hcalls (Nat.lt_of_succ_lt_succ hcount)
          refine ⟨(token, between) :: pulls, rfl, fun R => ?_⟩
          refine R.ok_bind (hnext.ok R hset hstream) ?_
          rw [← List.append_nil events']
          exact R.ok_bind (hrest R) (R.ok_pure _)

-- Taking tokens gives all that is left, if there are enough of them to take.
theorem take_ok (hset : set.Sound) (hstream : stream.Sound set start) {count : Nat}
    (hcount : stream.left.length < count) :
    ∃ pulls final events, Covers start (pulls.map (·.1)) stream.left ∧
      ∀ {m : Type → Type} [Monad m] {host : Host m} (R : Reading set host),
        R.Ok (stream.take set host count) (pulls, final) events := by
  obtain ⟨tokens, scan, events, hcovers, -, hcalls, -⟩ := drain_ok hset hstream
  obtain ⟨pulls, rfl, hrun⟩ :=
    hcalls.take_ok hset hstream (Nat.lt_of_le_of_lt hcovers.length_le hcount)
  exact ⟨pulls, _, events, hcovers, hrun⟩

-- A stream has no more tokens than all of its text has bytes.
theorem Sound.left_length (hstream : stream.Sound set start) :
    stream.left.length < stream.outer.input.size + 1 := by
  have hsize := hstream.left_size
  have hbase := hstream.base_le
  have hlength := Text.length_le_size stream.left
  omega

theorem rest_ok (hset : set.Sound) (hstream : stream.Sound set start) :
    ∃ pulls final events, Covers start (pulls.map (·.1)) stream.left ∧
      ∀ {m : Type → Type} [Monad m] {host : Host m} (R : Reading set host),
        R.Ok (stream.rest set host) (pulls, final) events :=
  take_ok hset hstream hstream.left_length

theorem open?_eq {lexer : TableId} {table : Table} (htable : set.table? lexer = some table)
    (text : Text) : set.open? lexer text = some (.ofScan (.start lexer table.root text)) := by
  rw [TableSet.open?, htable, Option.map_some]

theorem open?_sound (hset : set.Sound) {id : TableId} {text : Text}
    (hopen : set.open? id text = some stream) : stream.Sound set 0 := by
  obtain ⟨table, htable, rfl⟩ := Option.map_eq_some_iff.mp hopen
  exact ofScan_sound (Scan.fresh_sound hset htable (by simp) text 0 0) rfl

-- The tokens of a text are those that calls give until one gives none.
theorem Calls.tokens_eq (hset : set.Sound) {lexer : TableId} {text : Text}
    (hopen : set.open? lexer text = some stream) {tokens : List Token}
    (h : Calls set stream (tokens.map some ++ [none]) final events) :
    set.tokens lexer text = .ok tokens := by
  have hstream := open?_sound hset hopen
  obtain ⟨taken, hcovers, hleft, -⟩ := h.covers hset hstream
  have hgiven : (tokens.map some ++ [none]).filterMap id = tokens := by simp
  rw [hgiven] at hcovers
  have htokens : tokens.length < stream.outer.input.size + 1 := by
    have hfit := hstream.left_length
    have hlength := hcovers.length_le
    rw [hleft, List.length_append] at hfit
    omega
  obtain ⟨pulls, rfl, hrun⟩ := h.take_ok hset hstream htokens
  have hrest : stream.rest set set.plainHost = Except.ok (pulls, final) := hrun set.plainReading
  rw [TableSet.tokens, hopen]
  simp only [hrest]
  rfl

end Runs

end Stream

end StackLexer
