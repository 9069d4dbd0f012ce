import StackLexer.Regex.Program
import StackLexer.Text

namespace StackLexer.Regex

-- Groups that are open, with the offset they were opened at, and groups that were closed, each
-- with its last span.
structure Captures where
  opened : List (Nat × Nat)
  closed : List (Nat × Span)
deriving DecidableEq, Repr

namespace Captures

def empty : Captures := ⟨[], []⟩

def openAt (captures : Captures) (group offset : Nat) : Captures :=
  { captures with opened := (group, offset) :: captures.opened.filter (·.1 != group) }

def closeAt (captures : Captures) (group offset : Nat) : Captures :=
  match captures.opened.lookup group with
  | some start =>
      { captures with
        closed := (group, ⟨start, offset⟩) :: captures.closed.filter (·.1 != group) }
  | none => captures

def span? (captures : Captures) (group : Nat) : Option Span := captures.closed.lookup group

end Captures

structure Thread where
  pc : Nat
  captures : Captures
deriving Repr

-- The end of a match and the groups that took part in it.
structure Hit where
  stop : Nat
  captures : Captures
deriving Repr

namespace Program

-- Follows the threads in `jobs` up to the instructions that read a character. `visited` has a bit
-- for every address reached at this place, and `ready` holds the threads that wait for a character,
-- the last one first. Each address is followed once and adds at most two jobs, so the fuel that
-- `settle` gives is enough. Threads are kept in order of preference: one is dropped where it
-- reaches an instruction that a better one has reached at this place, and one that accepts drops
-- all threads behind it.
def settleFrom (program : Program) (offset : Nat) (before after : Option Char) :
    (fuel : Nat) → (visited : Nat) → (ready jobs : List Thread) → List Thread × Option Hit
  | 0, _, ready, _ => (ready.reverse, none)
  | _ + 1, _, ready, [] => (ready.reverse, none)
  | fuel + 1, visited, ready, ⟨pc, captures⟩ :: jobs =>
      let proceed := settleFrom program offset before after fuel (visited ||| 1 <<< pc)
      if visited.testBit pc then settleFrom program offset before after fuel visited ready jobs
      else match program.code[pc]? with
        | none => proceed ready jobs
        | some (.char _) | some (.set _) => proceed (⟨pc, captures⟩ :: ready) jobs
        | some (.look look) =>
            if look.holds before after then proceed ready (⟨pc + 1, captures⟩ :: jobs)
            else proceed ready jobs
        | some (.opens group) =>
            proceed ready (⟨pc + 1, captures.openAt group offset⟩ :: jobs)
        | some (.closes group) =>
            proceed ready (⟨pc + 1, captures.closeAt group offset⟩ :: jobs)
        | some (.split first second) =>
            proceed ready (⟨first, captures⟩ :: ⟨second, captures⟩ :: jobs)
        | some (.jump target) => proceed ready (⟨target, captures⟩ :: jobs)
        | some .accept => (ready.reverse, some ⟨offset, captures⟩)

def settle (program : Program) (offset : Nat) (before after : Option Char) (jobs : List Thread) :
    List Thread × Option Hit :=
  settleFrom program offset before after (jobs.length + 2 * program.code.size + 1) 0 [] jobs

-- The thread behind its instruction, if that instruction takes the character.
def read? (program : Program) (c : Char) (thread : Thread) : Option Thread :=
  match program.code[thread.pc]? with
  | some (.char d) => if c = d then some ⟨thread.pc + 1, thread.captures⟩ else none
  | some (.set chars) => if chars.mem c then some ⟨thread.pc + 1, thread.captures⟩ else none
  | _ => none

-- Runs the threads over the text behind the place; `best` is the match found so far. It stands
-- unless a thread accepts further on.
def runFrom (program : Program) (offset : Nat) (before : Option Char) (best : Option Hit)
    (jobs : List Thread) : Text → Option Hit
  | [] => (program.settle offset before none jobs).2.or best
  | c :: rest =>
      let (ready, hit) := program.settle offset before (some c) jobs
      if ready.isEmpty then hit.or best
      else
        runFrom program (offset + c.utf8Size) (some c) (hit.or best)
          (ready.filterMap (program.read? c)) rest

-- The preferred match that starts at the place.
def search (program : Program) (place : Place) : Option Hit :=
  runFrom program place.offset place.before none [⟨0, .empty⟩] place.after

end Program

end StackLexer.Regex
