import Mathlib.Logic.Function.Basic
import StackLexer.Proofs.Scan.Calls
import StackLexer.Proofs.Scan.Memory
import StackLexer.Proofs.Scan.Sample

namespace StackLexer

namespace Stream

variable {ι : Type} [DecidableEq ι] {set : TableSet}

-- The calls of a schedule, which names the stream that is called next.
def interleave {m : Type → Type} [Monad m] (set : TableSet) (host : Host m) :
    List ι → (ι → Stream) → ExceptT Fault m (List (ι × Option Token) × (ι → Stream))
  | [], streams => return ([], streams)
  | i :: schedule, streams => do
      let (answer, stream) ← (streams i).next set host
      let (answers, final) ← interleave set host schedule (Function.update streams i stream)
      return ((i, answer) :: answers, final)

-- The answers that one stream gave.
def answersOf (i : ι) (answers : List (ι × Option Token)) : List (Option Token) :=
  answers.filterMap fun (j, answer) => if j = i then some answer else none

theorem interleave_cons_ok {m : Type → Type} [Monad m] {host : Host m} (R : Reading set host)
    {i : ι} {schedule : List ι} {streams final : ι → Stream} {answer : Option Token}
    {stream : Stream} {answers : List (ι × Option Token)} {events events' : List Event}
    (hnext : R.Ok ((streams i).next set host) (answer, stream) events)
    (hrest : R.Ok (interleave set host schedule (Function.update streams i stream))
      (answers, final) events') :
    R.Ok (interleave set host (i :: schedule) streams) ((i, answer) :: answers, final)
      (events ++ events') := by
  refine R.ok_bind hnext ?_
  rw [← List.append_nil events']
  exact R.ok_bind hrest (R.ok_pure _)

-- The calls come back, and each stream answers as if there were no others.
theorem interleave_ok (hset : set.Sound) (schedule : List ι) (streams : ι → Stream)
    (hstreams : ∀ i, ∃ start, (streams i).Sound set start) :
    ∃ answers final,
      (∃ events, ∀ {m : Type → Type} [Monad m] {host : Host m} (R : Reading set host),
        R.Ok (interleave set host schedule streams) (answers, final) events) ∧
      ∀ i, ∃ events, ∀ {m : Type → Type} [Monad m] {host : Host m} (R : Reading set host),
        R.Ok (calls set host (schedule.count i) (streams i)) (answersOf i answers, final i)
          events := by
  induction schedule generalizing streams with
  | nil => exact ⟨[], streams, ⟨[], fun R => R.ok_pure _⟩, fun i => ⟨[], fun R => R.ok_pure _⟩⟩
  | cons j schedule ih =>
      obtain ⟨start, hstream⟩ := hstreams j
      obtain ⟨answer, stream, events, hnext, hrun⟩ := next_ok hset hstream
      have hupdate : ∀ i, ∃ start, (Function.update streams j stream i).Sound set start := by
        intro i
        by_cases hi : i = j
        · subst hi
          rw [Function.update_self]
          exact hnext.sound hset hstream
        · rw [Function.update_of_ne hi]
          exact hstreams i
      obtain ⟨answers, final, ⟨events', hrest⟩, halone⟩ := ih _ hupdate
      refine ⟨(j, answer) :: answers, final, ⟨events ++ events', ?_⟩, ?_⟩
      · intro m _ host R
        exact interleave_cons_ok R (hrun R) (hrest R)
      · intro i
        obtain ⟨events'', hcalls⟩ := halone i
        by_cases hi : i = j
        · subst hi
          rw [Function.update_self] at hcalls
          refine ⟨events ++ events'', ?_⟩
          intro m _ host R
          rw [List.count_cons_self]
          simpa [answersOf] using calls_cons_ok R (hrun R) (hcalls R)
        · rw [Function.update_of_ne hi] at hcalls
          refine ⟨events'', ?_⟩
          intro m _ host R
          rw [List.count_cons_of_ne (Ne.symm hi)]
          simpa [answersOf, Ne.symm hi] using hcalls R

-- Whatever the order of the calls, a rule is run by no table but its own, what it delegates leads
-- where it would lead without a memory, and every stream gives what it gives when run alone.
theorem interleaved_eq_alone {grammars : List Grammar} {options : Options} {set : TableSet}
    (hbuild : TableSet.build grammars options = .ok set) (streams : ι → Stream)
    (hopen : ∀ i, ∃ id text, set.open? id text = some (streams i)) (schedule : List ι) :
    ∃ answers final,
      (∃ session, (interleave set set.liveHost schedule streams).run Session.empty =
        (.ok (answers, final), session)) ∧
      (∃ session asked, (interleave set set.watchHost schedule streams).run (Session.empty, []) =
          (.ok (answers, final), session, asked) ∧
        ∀ used ∈ asked, used.handle.key.table = used.table ∧
          used.answer? = set.lookup? used.table used.handle.delegation ∧ used.answer?.isSome) ∧
      ∀ i, ∃ session, (calls set set.liveHost (schedule.count i) (streams i)).run Session.empty =
        (.ok (answersOf i answers, final i), session) := by
  have hset := TableSet.sound_of_build hbuild
  obtain ⟨hbuilt, hgrammars⟩ := (TableSet.build_settles grammars options).of_ok hbuild
  have hstreams : ∀ i, ∃ start, (streams i).Sound set start := by
    intro i
    obtain ⟨id, text, hstream⟩ := hopen i
    exact ⟨0, open?_sound hset hstream⟩
  obtain ⟨answers, final, ⟨events, hrun⟩, halone⟩ := interleave_ok hset schedule streams hstreams
  have hempty := Session.empty_right set
  refine ⟨answers, final, ?_, ?_, ?_⟩
  · obtain ⟨session, hlive, -⟩ := hrun hbuilt.reading Session.empty hempty
    exact ⟨session, hlive⟩
  · obtain ⟨⟨session, asked⟩, hwatch, -, hasked⟩ :=
      hrun (hbuilt.watchReading hgrammars) (Session.empty, []) ⟨hempty, by simp⟩
    refine ⟨session, asked, hwatch, ?_⟩
    intro used hmem
    have hright := hasked used hmem
    exact ⟨hright.table, hright.answer, hright.found⟩
  · intro i
    obtain ⟨events, hcalls⟩ := halone i
    obtain ⟨session, hlive, -⟩ := hcalls hbuilt.reading Session.empty hempty
    exact ⟨session, hlive⟩

theorem sample_interleaved : ∃ set, TableSet.build [.sample] .sample = .ok set ∧
    ∃ streams : Bool → Stream, (∀ i, ∃ id text, set.open? id text = some (streams i)) ∧
    ∃ answers final,
      (∃ session, (interleave set set.liveHost [true, false, true] streams).run Session.empty =
        (.ok (answers, final), session)) ∧
      (∃ session asked,
        (interleave set set.watchHost [true, false, true] streams).run (Session.empty, []) =
          (.ok (answers, final), session, asked) ∧
        ∀ used ∈ asked, used.handle.key.table = used.table ∧
          used.answer? = set.lookup? used.table used.handle.delegation ∧ used.answer?.isSome) ∧
      ∀ i, ∃ session,
        (calls set set.liveHost ([true, false, true].count i) (streams i)).run Session.empty =
          (.ok (answersOf i answers, final i), session) := by
  obtain ⟨set, table, hbuild, htable, -⟩ := Grammar.sample_builds
  let text (i : Bool) : Text := if i then "<ab>".toList else "c<<d>>".toList
  let streams (i : Bool) : Stream := .ofScan (.start 0 table.root (text i))
  have hopen : ∀ i, ∃ id text, set.open? id text = some (streams i) :=
    fun i => ⟨0, text i, open?_eq htable _⟩
  exact ⟨set, hbuild, streams, hopen, interleaved_eq_alone hbuild streams hopen _⟩

end Stream

end StackLexer
