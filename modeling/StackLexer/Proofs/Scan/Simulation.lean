import Mathlib.Data.List.Forall2
import StackLexer.Proofs.Scan.Calls

namespace StackLexer

inductive Piece.Related (Tokens : Token → Token → Prop) (Scans : Scan → Scan → Prop) :
    Piece → Piece → Prop where
  | token {made made'} (h : Tokens made made') : Related Tokens Scans (.token made) (.token made')
  | nested {scan scan'} (h : Scans scan scan') : Related Tokens Scans (.nested scan) (.nested scan')

-- Scans over two sets that go on step by step together.
structure Simulation (set set' : TableSet) where
  Scans : Scan → Scan → Prop
  Tokens : Token → Token → Prop
  Records : List Event → List Event → Prop
  nil : Records [] []
  append {events events' more more' : List Event} : Records events events' →
    Records more more' → Records (events ++ more) (events' ++ more')
  done {scan scan' : Scan} : Scans scan scan' → scan'.isDone = scan.isDone
  step {scan scan' next : Scan} {pieces : List Piece} {events : List Event} :
    Scans scan scan' → scan.Sound set → scan.isDone = false →
      scan.Steps set next pieces events →
        ∃ next' pieces' events', scan'.Steps set' next' pieces' events' ∧ Scans next next' ∧
          List.Forall₂ (Piece.Related Tokens Scans) pieces pieces' ∧ Records events events'

namespace Simulation

variable {set set' : TableSet} (sim : Simulation set set')

structure Levels (level level' : Level) : Prop where
  scan : sim.Scans level.scan level'.scan
  pending : List.Forall₂ (Piece.Related sim.Tokens sim.Scans) level.pending level'.pending

structure Streams (stream stream' : Stream) : Prop where
  active : sim.Levels stream.active stream'.active
  waiting : List.Forall₂ sim.Levels stream.waiting stream'.waiting

variable {sim} {stream stream' : Stream} {start start' : Nat} {events : List Event}

theorem streams_ofScan {scan scan' : Scan} (h : sim.Scans scan scan') :
    sim.Streams (.ofScan scan) (.ofScan scan') :=
  ⟨⟨h, .nil⟩, .nil⟩

theorem moves (hrel : sim.Streams stream stream') (hstream : stream.Sound set start)
    {next : Stream} (h : stream.Moves set next events) :
    ∃ next' events', stream'.Moves set' next' events' ∧ sim.Streams next next' ∧
      sim.Records events events' := by
  obtain ⟨⟨scan', pending'⟩, waiting'⟩ := stream'
  obtain ⟨⟨hscan, hpending⟩, hwaiting⟩ := hrel
  cases h with
  | enter =>
      cases hpending with
      | cons hpiece hrest =>
          cases hpiece with
          | nested hinner =>
              refine ⟨_, [], .enter, ⟨⟨hinner, .nil⟩, ?_⟩, sim.nil⟩
              exact .cons ⟨hscan, hrest⟩ hwaiting
  | leave hdone =>
      cases hpending with
      | nil =>
          cases hwaiting with
          | cons hlevel hrest =>
              have hdone' := (sim.done hscan).trans hdone
              exact ⟨_, [], .leave hdone', ⟨hlevel, hrest⟩, sim.nil⟩
  | step hdone hstep =>
      cases hpending with
      | nil =>
          have hdone' := (sim.done hscan).trans hdone
          obtain ⟨next', pieces', events', hstep', hnext, hpieces, hevents⟩ :=
            sim.step hscan hstream.active.scan hdone hstep
          exact ⟨_, events', .step hdone' hstep', ⟨⟨hnext, hpieces⟩, hwaiting⟩, hevents⟩

theorem next (hset : set.Sound) (hrel : sim.Streams stream stream')
    (hstream : stream.Sound set start) {answer : Option Token} {after : Stream}
    (h : stream.Next set answer after events) :
    ∃ answer' after' events', stream'.Next set' answer' after' events' ∧
      Option.Rel sim.Tokens answer answer' ∧ sim.Streams after after' ∧
      sim.Records events events' := by
  induction h generalizing stream' start with
  | token =>
      obtain ⟨⟨scan', pending'⟩, waiting'⟩ := stream'
      obtain ⟨⟨hscan, hpending⟩, hwaiting⟩ := hrel
      cases hpending with
      | cons hpiece hrest =>
          cases hpiece with
          | token hmade =>
              exact ⟨_, _, [], .token, .some hmade, ⟨⟨hscan, hrest⟩, hwaiting⟩, sim.nil⟩
  | finish hdone =>
      obtain ⟨⟨scan', pending'⟩, waiting'⟩ := stream'
      obtain ⟨⟨hscan, hpending⟩, hwaiting⟩ := hrel
      cases hpending with
      | nil =>
          cases hwaiting with
          | nil =>
              have hdone' := (sim.done hscan).trans hdone
              exact ⟨_, _, [], .finish hdone', .none, ⟨⟨hscan, .nil⟩, .nil⟩, sim.nil⟩
  | move hmove _ ih =>
      obtain ⟨between', events', hmove', hbetween, hevents⟩ := moves hrel hstream hmove
      obtain ⟨answer', after', more', hnext', hanswer, hafter, hmore⟩ :=
        ih hbetween (hmove.sound hset hstream)
      exact ⟨answer', after', _, .move hmove' hnext', hanswer, hafter, sim.append hevents hmore⟩

-- Every call of one stream is matched by a call of the other: their tokens are related one by one,
-- and so is what they record.
theorem calls (hset : set.Sound) (hrel : sim.Streams stream stream')
    (hstream : stream.Sound set start) {answers : List (Option Token)} {final : Stream}
    (h : stream.Calls set answers final events) :
    ∃ answers' final' events', stream'.Calls set' answers' final' events' ∧
      List.Forall₂ (Option.Rel sim.Tokens) answers answers' ∧ sim.Streams final final' ∧
      sim.Records events events' := by
  induction h generalizing stream' start with
  | nil => exact ⟨[], stream', [], .nil, .nil, hrel, sim.nil⟩
  | cons hnext _ ih =>
      obtain ⟨answer', between', events', hnext', hanswer, hbetween, hevents⟩ :=
        next hset hrel hstream hnext
      obtain ⟨start', hsound⟩ := hnext.sound hset hstream
      obtain ⟨answers', final', more', hcalls', hanswers, hfinal, hmore⟩ := ih hbetween hsound
      exact ⟨answer' :: answers', final', _, .cons hnext' hcalls', .cons hanswer hanswers, hfinal,
        sim.append hevents hmore⟩

end Simulation

end StackLexer
