import StackLexer.Proofs.Scan.Calls
import StackLexer.Proofs.Scan.Sample

namespace StackLexer

-- Where in the outermost input events take place: a step at the cursor of its scan, and a call of a
-- callback where the step before it was made, if there was one.
def placesFrom (last? : Option Nat) : List Event → List (Option Nat)
  | [] => []
  | .step scan _ :: rest => some scan.offset :: placesFrom (some scan.offset) rest
  | .call _ :: rest => last? :: placesFrom last? rest

def places (events : List Event) : List (Option Nat) := placesFrom none events

theorem placesFrom_calls {calls : List Event}
    (hcalls : ∀ event ∈ calls, ∃ context, event = .call context) (last? : Option Nat) :
    ∀ place ∈ placesFrom last? calls, place = last? := by
  induction calls with
  | nil => simp [placesFrom]
  | cons event calls ih =>
      obtain ⟨⟨context, rfl⟩, hrest⟩ := List.forall_mem_cons.mp hcalls
      exact List.forall_mem_cons.mpr ⟨rfl, ih hrest⟩

-- Events that all have a place of their own do not depend on what came before.
theorem placesFrom_append {events more : List Event} (hmore : none ∉ places more)
    (last? : Option Nat) :
    placesFrom last? (events ++ more) = placesFrom last? events ++ places more := by
  induction events generalizing last? with
  | nil =>
      cases more with
      | nil => rfl
      | cons event more =>
          cases event with
          | step scan winner? => rfl
          | call context => simp [places, placesFrom] at hmore
  | cons event events ih =>
      cases event with
      | step scan winner? => exact congrArg (some scan.offset :: ·) (ih _)
      | call context => exact congrArg (last? :: ·) (ih _)

theorem places_append {events more : List Event} {start : Nat}
    (hevents : ∀ place ∈ places events, place = some start)
    (hmore : ∀ place ∈ places more, place = some start) :
    ∀ place ∈ places (events ++ more), place = some start := by
  have hnone : none ∉ places more := by
    intro hmem
    simpa using hmore none hmem
  intro place hmem
  rw [places, placesFrom_append hnone] at hmem
  rcases List.mem_append.mp hmem with hmem | hmem
  · exact hevents place hmem
  · exact hmore place hmem

-- A step tries its rules, and calls its callback, at the cursor.
theorem Scan.Steps.places_eq {set : TableSet} {scan next : Scan} {pieces : List Piece}
    {events : List Event} (h : scan.Steps set next pieces events) :
    ∀ place ∈ places events, place = some scan.offset := by
  obtain ⟨state, won, calls, -, rfl, hcalls⟩ := h.records
  exact List.forall_mem_cons.mpr ⟨rfl, placesFrom_calls hcalls _⟩

namespace Stream

variable {set : TableSet} {stream stream' : Stream} {events : List Event} {start : Nat}

-- The active level takes a step only when all before its cursor is handed out.
theorem Moves.places_eq (hstream : stream.Sound set start)
    (h : Moves set stream stream' events) : ∀ place ∈ places events, place = some start := by
  cases h with
  | enter => simp [places, placesFrom]
  | leave => simp [places, placesFrom]
  | @step scan next pieces events waiting hdone hstep =>
      have hoffset : scan.offset = start := hstream.active.idle
      rw [← hoffset]
      exact hstep.places_eq

theorem Next.places_eq {answer : Option Token} (hset : set.Sound)
    (hstream : stream.Sound set start) (h : Next set stream answer stream' events) :
    ∀ place ∈ places events, place = some start := by
  induction h with
  | token => simp [places, placesFrom]
  | finish => simp [places, placesFrom]
  | move hmove _ ih =>
      exact places_append (hmove.places_eq hstream) (ih (hmove.sound hset hstream))

-- A scan that takes a step has text left, and that becomes a token.
theorem Next.events_of_none (hset : set.Sound) (hstream : stream.Sound set start)
    (h : Next set stream none stream' events) : events = [] := by
  generalize hanswer : (none : Option Token) = answer at h
  induction h with
  | token => rfl
  | finish => rfl
  | @move stream between stream' answer events events' hmove hnext ih =>
      subst hanswer
      rw [ih (hmove.sound hset hstream) rfl, List.append_nil]
      have hleft : stream.left = [] := ((Next.move hmove hnext).of_none hset hstream).1
      cases hmove with
      | enter => rfl
      | leave => rfl
      | @step scan next pieces events waiting hdone hstep =>
          have hrest : scan.rest = [] := by
            simp only [left, Level.left, List.append_eq_nil_iff] at hleft
            exact hleft.1.2
          rw [hstream.active.scan.isDone_iff.mpr hrest] at hdone
          contradiction

-- All that calls have done, they have done at the start of the last token or before it.
theorem Calls.places_le {answers : List (Option Token)} (hset : set.Sound)
    (hstream : stream.Sound set start) (h : Calls set stream answers stream' events) :
    ∀ place ∈ places events, ∃ offset token, place = some offset ∧
      (answers.filterMap id).getLast? = some token ∧ offset ≤ token.start := by
  induction h generalizing start with
  | nil => simp [places, placesFrom]
  | @cons stream answer between events answers final events' hnext hcalls ih =>
      cases answer with
      | none =>
          obtain ⟨-, -, hbetween, -⟩ := hnext.of_none hset hstream
          rw [hnext.events_of_none hset hstream, List.nil_append]
          exact ih hbetween
      | some token =>
          obtain ⟨rfl, -, -, hbetween⟩ := hnext.of_some hset hstream
          obtain ⟨taken, hcovers, -, -⟩ := (Calls.cons hnext hcalls).covers hset hstream
          have hlast := ih hbetween
          have hnone : none ∉ places events' := by
            intro hmem
            obtain ⟨offset, last, hplace, -, -⟩ := hlast none hmem
            contradiction
          obtain ⟨last, hgiven⟩ : ∃ last, (token :: answers.filterMap id).getLast? = some last :=
            ⟨_, List.getLast?_eq_some_getLast (List.cons_ne_nil _ _)⟩
          intro place hmem
          rw [places, placesFrom_append hnone] at hmem
          rcases List.mem_append.mp hmem with hmem | hmem
          · obtain rfl := hnext.places_eq hset hstream place hmem
            have hle := (hcovers.within last (List.mem_of_getLast? hgiven)).1
            exact ⟨token.start, last, rfl, hgiven, hle⟩
          · obtain ⟨offset, last, rfl, hgiven', hle⟩ := hlast place hmem
            refine ⟨offset, last, rfl, ?_, hle⟩
            change (token :: answers.filterMap id).getLast? = some last
            rw [List.getLast?_cons, hgiven']
            rfl

-- After any number of calls, the next one does all that it does where its token starts, or nothing
-- if it gives none; and what was done so far was done no further on than the last token starts.
theorem calls_at_tokens {grammars : List Grammar} {options : Options} {set : TableSet}
    (hbuild : TableSet.build grammars options = .ok set) {lexer : TableId} {text : Text}
    {stream : Stream} (hopen : set.open? lexer text = some stream) (count : Nat) :
    ∃ answers between log answer final events,
      (calls set set.tracer count stream).run [] = (.ok (answers, between), log) ∧
      (between.next set set.tracer).run [] = (.ok (answer, final), events) ∧
      (∀ token, answer = some token → ∀ place ∈ places events, place = some token.start) ∧
      (answer = none → events = []) ∧
      ∀ place ∈ places log, ∃ offset token, place = some offset ∧
        (answers.filterMap id).getLast? = some token ∧ offset ≤ token.start := by
  have hset := TableSet.sound_of_build hbuild
  have hstart := open?_sound hset hopen
  obtain ⟨answers, between, log, -, hcalls, hrun⟩ := calls_ok hset hstart count
  obtain ⟨taken, -, -, hbetween⟩ := hcalls.covers hset hstart
  obtain ⟨answer, final, events, hnext, hlast⟩ := next_ok hset hbetween
  refine ⟨answers, between, log, answer, final, events, hrun set.tracerReading [],
    hlast set.tracerReading [], ?_, ?_, hcalls.places_le hset hstart⟩
  · rintro token rfl
    obtain ⟨hstart, -, -, -⟩ := hnext.of_some hset hbetween
    rw [hstart]
    exact hnext.places_eq hset hbetween
  · rintro rfl
    exact hnext.events_of_none hset hbetween

theorem sample_calls_at_tokens : ∃ set stream, TableSet.build [.sample] .sample = .ok set ∧
    set.open? 0 "ab <c<d>>12".toList = some stream ∧
    ∃ answers between log answer final events,
      (calls set set.tracer 3 stream).run [] = (.ok (answers, between), log) ∧
      (between.next set set.tracer).run [] = (.ok (answer, final), events) ∧
      (∀ token, answer = some token → ∀ place ∈ places events, place = some token.start) ∧
      (answer = none → events = []) ∧
      ∀ place ∈ places log, ∃ offset token, place = some offset ∧
        (answers.filterMap id).getLast? = some token ∧ offset ≤ token.start := by
  obtain ⟨set, table, hbuild, htable, -⟩ := Grammar.sample_builds
  have hopen := open?_eq htable "ab <c<d>>12".toList
  exact ⟨set, _, hbuild, hopen, calls_at_tokens hbuild hopen 3⟩

end Stream

end StackLexer
