import Mathlib.Data.Finset.Card
import StackLexer.Proofs.Regex.Search

namespace StackLexer

-- The place behind the next character, if that passes the test.
def Place.read? (place : Place) (test : Char → Bool) : Option Place :=
  match place.after with
  | [] => none
  | c :: rest => if test c then some (place.past c rest) else none

namespace Regex

-- The test that an instruction puts a character to, if it reads one.
def Inst.reads? : Inst → Option (Char → Bool)
  | .char c => some (c == ·)
  | .set chars => some chars.mem
  | _ => none

namespace Program

-- What trying one way after the other finds from an address on: where the preferred match ends.
inductive Finds (program : Program) : Place → Nat → Option Nat → Prop where
  | read {place next pc inst test found} (hpc : program.code[pc]? = some inst)
      (hreads : inst.reads? = some test) (hnext : place.read? test = some next)
      (h : Finds program next (pc + 1) found) : Finds program place pc found
  | miss {place pc inst test} (hpc : program.code[pc]? = some inst)
      (hreads : inst.reads? = some test) (hnext : place.read? test = none) :
      Finds program place pc none
  | look {place pc look found} (hpc : program.code[pc]? = some (.look look))
      (hlook : look.holds place.before place.after.head? = true)
      (h : Finds program place (pc + 1) found) : Finds program place pc found
  | fail {place pc look} (hpc : program.code[pc]? = some (.look look))
      (hlook : look.holds place.before place.after.head? = false) : Finds program place pc none
  | opens {place pc group found} (hpc : program.code[pc]? = some (.opens group))
      (h : Finds program place (pc + 1) found) : Finds program place pc found
  | closes {place pc group found} (hpc : program.code[pc]? = some (.closes group))
      (h : Finds program place (pc + 1) found) : Finds program place pc found
  | split {place pc first second found other}
      (hpc : program.code[pc]? = some (.split first second))
      (hfirst : pc < first) (hsecond : pc < second)
      (h : Finds program place first found) (h' : Finds program place second other) :
      Finds program place pc (found.or other)
  | jump {place pc target found} (hpc : program.code[pc]? = some (.jump target))
      (htarget : pc < target) (h : Finds program place target found) :
      Finds program place pc found
  | accept {place pc} (hpc : program.code[pc]? = some .accept) :
      Finds program place pc (some place.offset)

-- What trying the threads in their order finds.
inductive FindsAny (program : Program) (place : Place) : List Thread → Option Nat → Prop where
  | nil : FindsAny program place [] none
  | cons {thread threads found other} (h : program.Finds place thread.pc found)
      (hrest : FindsAny program place threads other) :
      FindsAny program place (thread :: threads) (found.or other)

-- The thread waits for a character.
def Waits (program : Program) (thread : Thread) : Prop :=
  ∃ inst test, program.code[thread.pc]? = some inst ∧ inst.reads? = some test

section Preference

variable {program : Program} {place : Place} {pc : Nat} {found : Option Nat}
variable {ready jobs : List Thread}

theorem Finds.lt_size (h : program.Finds place pc found) : pc < program.code.size := by
  cases h with
  | read hpc | miss hpc | look hpc | fail hpc | opens hpc | closes hpc | split hpc | jump hpc
  | accept hpc => exact (Array.getElem?_eq_some_iff.mp hpc).1

-- The instruction at the address decides how the search goes on, so it finds one thing only.
theorem Finds.unique (h : program.Finds place pc found) {other : Option Nat}
    (h' : program.Finds place pc other) : found = other := by
  induction h generalizing other <;> cases h' <;> grind [Inst.reads?]

-- What is found behind a character that has to pass the test.
def Reads (program : Program) (place : Place) (pc : Nat) (found : Option Nat)
    (test : Char → Bool) : Prop :=
  match place.read? test with
  | some next => program.Finds next (pc + 1) found
  | none => found = none

-- What is found behind an instruction.
def Leads (program : Program) (place : Place) (pc : Nat) (found : Option Nat) : Inst → Prop
  | .char c => program.Reads place pc found (c == ·)
  | .set chars => program.Reads place pc found chars.mem
  | .look look =>
      if look.holds place.before place.after.head? then program.Finds place (pc + 1) found
      else found = none
  | .opens _ | .closes _ => program.Finds place (pc + 1) found
  | .split first second =>
      pc < first ∧ pc < second ∧
        ∃ own other, program.Finds place first own ∧ program.Finds place second other ∧
          found = own.or other
  | .jump target => pc < target ∧ program.Finds place target found
  | .accept => found = some place.offset

theorem leads_of_reads {inst : Inst} {test : Char → Bool} (hreads : inst.reads? = some test) :
    program.Leads place pc found inst = program.Reads place pc found test := by
  cases inst with
  | char c | set chars =>
      obtain rfl := Option.some.inj hreads
      rfl
  | look | opens | closes | split | jump | accept => contradiction

theorem Finds.leads (h : program.Finds place pc found) {inst : Inst}
    (hinst : program.code[pc]? = some inst) : program.Leads place pc found inst := by
  cases h with
  | read hpc hreads hnext h =>
      obtain rfl := Option.some.inj (hinst.symm.trans hpc)
      rw [leads_of_reads hreads, Reads, hnext]
      exact h
  | miss hpc hreads hnext =>
      obtain rfl := Option.some.inj (hinst.symm.trans hpc)
      rw [leads_of_reads hreads, Reads, hnext]
  | look hpc hlook h =>
      obtain rfl := Option.some.inj (hpc.symm.trans hinst)
      exact (if_pos hlook).mpr h
  | fail hpc hlook =>
      obtain rfl := Option.some.inj (hpc.symm.trans hinst)
      exact (if_neg (by simp [hlook])).mpr rfl
  | opens hpc h | closes hpc h =>
      obtain rfl := Option.some.inj (hpc.symm.trans hinst)
      exact h
  | split hpc hfirst hsecond h h' =>
      obtain rfl := Option.some.inj (hpc.symm.trans hinst)
      exact ⟨hfirst, hsecond, _, _, h, h', rfl⟩
  | jump hpc htarget h =>
      obtain rfl := Option.some.inj (hpc.symm.trans hinst)
      exact ⟨htarget, h⟩
  | accept hpc =>
      obtain rfl := Option.some.inj (hpc.symm.trans hinst)
      rfl

theorem FindsAny.single {thread : Thread} (h : program.Finds place thread.pc found) :
    program.FindsAny place [thread] found := by
  rw [← Option.or_none (o := found)]
  exact .cons h .nil

theorem FindsAny.append {threads threads' : List Thread} {other : Option Nat}
    (h : program.FindsAny place threads found) (h' : program.FindsAny place threads' other) :
    program.FindsAny place (threads ++ threads') (found.or other) := by
  induction h with
  | nil => exact h'
  | cons hfirst _ ih =>
      rw [Option.or_assoc]
      exact .cons hfirst ih

theorem FindsAny.of_append {threads threads' : List Thread}
    (h : program.FindsAny place (threads ++ threads') found) :
    ∃ first second, program.FindsAny place threads first ∧
      program.FindsAny place threads' second ∧ found = first.or second := by
  induction threads generalizing found with
  | nil => exact ⟨none, found, .nil, h, rfl⟩
  | cons thread threads ih =>
      cases h with
      | cons hfirst hrest =>
          obtain ⟨first, second, h, h', rfl⟩ := ih hrest
          exact ⟨_, second, .cons hfirst h, h', (Option.or_assoc ..).symm⟩

theorem FindsAny.isSome_iff {threads : List Thread} (h : program.FindsAny place threads found) :
    found.isSome ↔ ∃ thread ∈ threads, ∃ stop, program.Finds place thread.pc (some stop) := by
  induction h with
  | nil => simp
  | @cons thread threads found other hfirst _ ih =>
      have hhead : found.isSome ↔ ∃ stop, program.Finds place thread.pc (some stop) := by
        constructor
        · intro hsome
          obtain ⟨stop, rfl⟩ := Option.isSome_iff_exists.mp hsome
          exact ⟨stop, hfirst⟩
        · rintro ⟨stop, hstop⟩
          rw [hfirst.unique hstop]
          rfl
      simp only [Option.isSome_or, Bool.or_eq_true, hhead, ih, List.mem_cons, exists_eq_or_imp]

-- An address that was reached at this place before. Where it finds something, so does a thread
-- that waits, or one of those jobs at the front that are what is left of it: all of them stand
-- at later addresses.
def Covered (program : Program) (place : Place) (ready jobs : List Thread) (pc : Nat) : Prop :=
  ∃ front back, jobs = front ++ back ∧ (∀ job ∈ front, pc < job.pc) ∧
    ∀ stop, program.Finds place pc (some stop) →
      ∃ thread ∈ ready ++ front, ∃ stop', program.Finds place thread.pc (some stop')

-- The first job gives way to later ones. Where it would have found something, one of these does, or
-- a thread that waits.
theorem Covered.replace {job : Thread} {ready' : List Thread}
    (h : program.Covered place ready (job :: jobs) pc) (hready : ready ⊆ ready')
    (more : List Thread) (hlater : ∀ next ∈ more, job.pc < next.pc)
    (hfound : ∀ stop, program.Finds place job.pc (some stop) →
      ∃ thread ∈ ready' ++ more, ∃ stop', program.Finds place thread.pc (some stop')) :
    program.Covered place ready' (more ++ jobs) pc := by
  obtain ⟨front, back, hjobs, hbehind, hcovered⟩ := h
  cases front with
  | nil =>
      refine ⟨[], more ++ jobs, rfl, by simp, fun stop hstop => ?_⟩
      obtain ⟨thread, hmem, hfinds⟩ := hcovered stop hstop
      rw [List.append_nil] at hmem ⊢
      exact ⟨thread, hready hmem, hfinds⟩
  | cons first front =>
      obtain ⟨rfl, rfl⟩ := List.cons.inj hjobs
      obtain ⟨hlt, hbehind⟩ := List.forall_mem_cons.mp hbehind
      refine ⟨more ++ front, back, (List.append_assoc ..).symm, ?_, fun stop hstop => ?_⟩
      · exact List.forall_mem_append.mpr
          ⟨fun next hmem => Nat.lt_trans hlt (hlater next hmem), hbehind⟩
      · obtain ⟨thread, hmem, stop', hfinds⟩ := hcovered stop hstop
        rw [List.mem_append, List.mem_cons] at hmem
        rcases hmem with hmem | rfl | hmem
        · exact ⟨thread, List.mem_append_left _ (hready hmem), stop', hfinds⟩
        · obtain ⟨thread, hmem, hfinds⟩ := hfound stop' hfinds
          rw [← List.append_assoc]
          exact ⟨thread, List.mem_append_left _ hmem, hfinds⟩
        · exact ⟨thread, by simp [hmem], stop', hfinds⟩

-- How far the threads at a place are settled. Nothing that can be found is lost.
structure Settling (program : Program) (place : Place) (visited : Nat) (ready jobs : List Thread)
    (found : Option Nat) : Prop where
  waits : ∀ thread ∈ ready, program.Waits thread
  covered : ∀ pc, visited.testBit pc = true → program.Covered place ready jobs pc
  finds : program.FindsAny place (ready.reverse ++ jobs) found

-- What is settled at a place: threads that wait, and a hit for where they find nothing.
structure Settled (program : Program) (place : Place) (settled : List Thread × Option Hit)
    (found : Option Nat) : Prop where
  waits : ∀ thread ∈ settled.1, program.Waits thread
  finds : ∃ later, program.FindsAny place settled.1 later ∧
    found = later.or (settled.2.map Hit.stop)

theorem testBit_mark {visited pc other : Nat} :
    (visited ||| 1 <<< pc).testBit other = true ↔ visited.testBit other = true ∨ other = pc := by
  rw [Nat.testBit_or, Nat.one_shiftLeft, Nat.testBit_two_pow, Bool.or_eq_true, decide_eq_true_iff,
    eq_comm (a := pc)]

namespace Settling

variable {visited : Nat} {captures : Captures}

-- A job at an address that was reached before is dropped.
theorem drop (h : program.Settling place visited ready (⟨pc, captures⟩ :: jobs) found)
    (hvisited : visited.testBit pc = true) : program.Settling place visited ready jobs found := by
  -- what is left of the address is none of the jobs, as the first of them is no later
  have hready : ∀ stop, program.Finds place pc (some stop) →
      ∃ thread ∈ ready, ∃ stop', program.Finds place thread.pc (some stop') := by
    obtain ⟨front, back, hjobs, hlater, hcovered⟩ := h.covered pc hvisited
    cases front with
    | nil => simpa using hcovered
    | cons job front =>
        obtain ⟨rfl, -⟩ := List.cons.inj hjobs
        exact absurd (hlater _ List.mem_cons_self) (Nat.lt_irrefl pc)
  refine ⟨h.waits, fun other hother => ?_, ?_⟩
  · refine (h.covered other hother).replace (List.Subset.refl ready) [] (by simp) ?_
    simpa using hready
  · obtain ⟨first, second, hfirst, hsecond, rfl⟩ := h.finds.of_append
    cases hsecond with
    | @cons _ _ own other hown hrest =>
        have hsame : first.or (own.or other) = first.or other := by
          cases own with
          | none => rfl
          | some stop =>
              have hsome : first.isSome := by
                rw [hfirst.isSome_iff]
                simpa using hready stop hown
              obtain ⟨stop', rfl⟩ := Option.isSome_iff_exists.mp hsome
              rfl
        rw [hsame]
        exact hfirst.append hrest

-- A job gives way to those that its instruction leads to, or is kept if it waits.
theorem follow (h : program.Settling place visited ready (⟨pc, captures⟩ :: jobs) found)
    (waiting more : List Thread) (hwaits : ∀ thread ∈ waiting, program.Waits thread)
    (hlater : ∀ job ∈ more, pc < job.pc)
    (hmore : ∀ own, program.Finds place pc own → program.FindsAny place (waiting ++ more) own) :
    program.Settling place (visited ||| 1 <<< pc) (waiting.reverse ++ ready) (more ++ jobs)
      found := by
  have hfound : ∀ stop, program.Finds place pc (some stop) →
      ∃ thread ∈ waiting.reverse ++ ready ++ more,
        ∃ stop', program.Finds place thread.pc (some stop') := by
    intro stop hstop
    obtain ⟨thread, hmem, hfinds⟩ := (hmore _ hstop).isSome_iff.mp rfl
    exact ⟨thread, by simp at hmem ⊢; tauto, hfinds⟩
  refine ⟨?_, fun other hother => ?_, ?_⟩
  · intro thread hmem
    rcases List.mem_append.mp hmem with hmem | hmem
    · exact hwaits thread (List.mem_reverse.mp hmem)
    · exact h.waits thread hmem
  · rcases testBit_mark.mp hother with hother | rfl
    · exact (h.covered other hother).replace (List.subset_append_right _ _) more hlater hfound
    · exact ⟨more, jobs, rfl, hlater, hfound⟩
  · obtain ⟨first, second, hfirst, hsecond, rfl⟩ := h.finds.of_append
    cases hsecond with
    | cons hown hrest =>
        have hall := hfirst.append ((hmore _ hown).append hrest)
        simpa using hall

section Turn

variable (h : program.Settling place visited ready (⟨pc, captures⟩ :: jobs) found)
include h

theorem exists_finds : ∃ own, program.Finds place pc own := by
  obtain ⟨-, second, -, hsecond, -⟩ := h.finds.of_append
  cases hsecond with
  | cons hown _ => exact ⟨_, hown⟩

-- A thread whose instruction reads a character waits for it.
theorem wait {inst : Inst} {test : Char → Bool} (hinst : program.code[pc]? = some inst)
    (hreads : inst.reads? = some test) :
    program.Settling place (visited ||| 1 <<< pc) (⟨pc, captures⟩ :: ready) jobs found := by
  have hwaits : program.Waits ⟨pc, captures⟩ := ⟨inst, test, hinst, hreads⟩
  exact h.follow [⟨pc, captures⟩] [] (by simpa using hwaits) (by simp) fun own hown => .single hown

-- A thread goes on at a later address, where it finds the same.
theorem goOn {next : Nat} (captures' : Captures) (hlt : pc < next)
    (hnext : ∀ own, program.Finds place pc own → program.Finds place next own) :
    program.Settling place (visited ||| 1 <<< pc) ready (⟨next, captures'⟩ :: jobs) found :=
  h.follow [] [⟨next, captures'⟩] (by simp) (by simpa using hlt) fun own hown =>
    .single (hnext own hown)

-- A thread that finds nothing is left out.
theorem leave (hnone : ∀ own, program.Finds place pc own → own = none) :
    program.Settling place (visited ||| 1 <<< pc) ready jobs found :=
  h.follow [] [] (by simp) (by simp) fun own hown => by
    rw [hnone own hown]
    exact .nil

-- A thread goes on at two later addresses, and the first of them is preferred.
theorem fork {first second : Nat} (hinst : program.code[pc]? = some (.split first second)) :
    program.Settling place (visited ||| 1 <<< pc) ready
      (⟨first, captures⟩ :: ⟨second, captures⟩ :: jobs) found := by
  obtain ⟨own, hown⟩ := h.exists_finds
  obtain ⟨hfirst, hsecond, -⟩ := hown.leads hinst
  refine h.follow [] [⟨first, captures⟩, ⟨second, captures⟩] (by simp)
    (by simp [hfirst, hsecond]) fun own hown => ?_
  obtain ⟨-, -, one, other, hone, hother, rfl⟩ := hown.leads hinst
  exact .cons hone (.single hother)

-- A thread that accepts is a hit, unless one that waits finds something.
theorem accept (hinst : program.code[pc]? = some .accept) :
    program.Settled place (ready.reverse, some ⟨place.offset, captures⟩) found := by
  refine ⟨fun thread hmem => h.waits thread (List.mem_reverse.mp hmem), ?_⟩
  obtain ⟨later, second, hlater, hsecond, rfl⟩ := h.finds.of_append
  refine ⟨later, hlater, ?_⟩
  cases hsecond with
  | cons hown _ =>
      obtain rfl := hown.leads hinst
      rfl

end Turn

theorem finish (h : program.Settling place visited ready [] found) :
    program.Settled place (ready.reverse, none) found := by
  refine ⟨fun thread hmem => h.waits thread (List.mem_reverse.mp hmem), found, ?_, by simp⟩
  simpa using h.finds

end Settling

-- Addresses of the program that were not reached yet.
def unseen (program : Program) (visited : Nat) : Nat :=
  ((Finset.range program.code.size).filter fun pc => visited.testBit pc = false).card

theorem unseen_mark_lt {visited : Nat} (hpc : pc < program.code.size)
    (hfresh : visited.testBit pc = false) :
    program.unseen (visited ||| 1 <<< pc) < program.unseen visited := by
  apply Finset.card_lt_card
  rw [Finset.ssubset_iff_of_subset]
  · exact ⟨pc, by simp [hpc, hfresh], by simp⟩
  · intro other hmem
    simp only [Finset.mem_filter, ← Bool.not_eq_true, testBit_mark] at hmem ⊢
    tauto

-- Each turn drops a job or marks an address, and keeps what is settled; the induction is on fuel.
theorem settleFrom_settled {fuel visited : Nat}
    (h : program.Settling place visited ready jobs found)
    (hfuel : jobs.length + 2 * program.unseen visited < fuel) :
    program.Settled place
      (program.settleFrom place.offset place.before place.after.head? fuel visited ready jobs)
      found := by
  induction fuel generalizing visited ready jobs found with
  | zero => omega
  | succ fuel ih =>
      cases jobs with
      | nil => exact h.finish
      | cons job jobs =>
          obtain ⟨pc, captures⟩ := job
          rw [List.length_cons] at hfuel
          rw [settleFrom]
          split
          case isTrue hvisited => exact ih (h.drop hvisited) (by omega)
          case isFalse hfresh =>
            obtain ⟨own, hown⟩ := h.exists_finds
            have hunseen := program.unseen_mark_lt hown.lt_size (Bool.not_eq_true _ ▸ hfresh)
            -- the instruction puts at most two jobs in the place of this one
            have hroom : ∀ jobs' : List Thread, jobs'.length ≤ jobs.length + 2 →
                jobs'.length + 2 * program.unseen (visited ||| 1 <<< pc) < fuel := by
              intro jobs' hlength
              omega
            split
            case h_1 hnone =>
              rw [Array.getElem?_eq_getElem hown.lt_size] at hnone
              contradiction
            case h_2 c hinst => exact ih (h.wait hinst rfl) (hroom _ (by simp))
            case h_3 chars hinst => exact ih (h.wait hinst rfl) (hroom _ (by simp))
            case h_4 look hinst =>
              split
              case isTrue hlook =>
                have hnext := h.goOn captures (Nat.lt_succ_self pc) fun own hown =>
                  (if_pos hlook).mp (hown.leads hinst)
                exact ih hnext (hroom _ (by simp))
              case isFalse hlook =>
                have hnext := h.leave fun own hown => (if_neg hlook).mp (hown.leads hinst)
                exact ih hnext (hroom _ (by simp))
            case h_5 group hinst | h_6 group hinst =>
              exact ih (h.goOn _ (Nat.lt_succ_self pc) fun own hown => hown.leads hinst)
                (hroom _ (by simp))
            case h_7 first second hinst => exact ih (h.fork hinst) (hroom _ (by simp))
            case h_8 target hinst =>
              obtain ⟨htarget, -⟩ := hown.leads hinst
              have hnext := h.goOn captures htarget fun own hown => (hown.leads hinst).2
              exact ih hnext (hroom _ (by simp))
            case h_9 hinst => exact h.accept hinst

theorem settle_settled (h : program.FindsAny place jobs found) :
    program.Settled place
      (program.settle place.offset place.before place.after.head? jobs) found := by
  apply settleFrom_settled
  · exact ⟨by simp, by simp, h⟩
  · have hle : program.unseen 0 ≤ program.code.size :=
      (Finset.card_filter_le _ _).trans (Finset.card_range _).le
    omega

theorem read?_eq {inst : Inst} {test : Char → Bool} {thread : Thread}
    (hinst : program.code[thread.pc]? = some inst) (hreads : inst.reads? = some test) (c : Char) :
    program.read? c thread =
      if test c then some ⟨thread.pc + 1, thread.captures⟩ else none := by
  rw [read?, hinst]
  cases inst with
  | char d =>
      obtain rfl := Option.some.inj hreads
      simp only [beq_iff_eq, eq_comm (a := c)]
  | set chars =>
      obtain rfl := Option.some.inj hreads
      rfl
  | look | opens | closes | split | jump | accept => contradiction

-- A thread that waits goes on behind the character that it reads, or ends there.
theorem read?_finds {c : Char} {rest : Text} (hafter : place.after = c :: rest)
    (hwaits : ∀ thread ∈ ready, program.Waits thread) (h : program.FindsAny place ready found) :
    program.FindsAny (place.past c rest) (ready.filterMap (program.read? c)) found := by
  induction h with
  | nil => exact .nil
  | @cons thread threads found other hown _ ih =>
      obtain ⟨⟨inst, test, hinst, hreads⟩, hwaits⟩ := List.forall_mem_cons.mp hwaits
      have hleads := hown.leads hinst
      rw [leads_of_reads hreads, Reads, Place.read?, hafter] at hleads
      rw [List.filterMap_cons, read?_eq hinst hreads]
      by_cases htest : test c = true
      · simp only [htest, if_true] at hleads ⊢
        exact .cons hleads (ih hwaits)
      · simp only [htest, if_false, Bool.false_eq_true] at hleads ⊢
        rw [hleads]
        exact ih hwaits

-- At the end of the text no thread that waits finds anything.
theorem eq_none_of_waits (hafter : place.after = [])
    (hwaits : ∀ thread ∈ ready, program.Waits thread) (h : program.FindsAny place ready found) :
    found = none := by
  induction h with
  | nil => rfl
  | cons hown _ ih =>
      obtain ⟨⟨inst, test, hinst, hreads⟩, hwaits⟩ := List.forall_mem_cons.mp hwaits
      have hleads := hown.leads hinst
      rw [leads_of_reads hreads, Reads, Place.read?, hafter] at hleads
      rw [hleads, ih hwaits]
      rfl

-- The threads at a place find what trying one after the other finds, or else the match that was
-- found earlier stands.
theorem runFrom_stop_eq (best : Option Hit) (h : program.FindsAny place jobs found) :
    (program.runFrom place.offset place.before best jobs place.after).map Hit.stop =
      found.or (best.map Hit.stop) := by
  obtain ⟨offset, before, after⟩ := place
  induction after generalizing offset before best jobs found with
  | nil =>
      obtain ⟨hwaits, later, hlater, rfl⟩ := settle_settled h
      rw [eq_none_of_waits rfl hwaits hlater, runFrom, Option.map_or]
      rfl
  | cons c rest ih =>
      obtain ⟨hwaits, later, hlater, rfl⟩ := settle_settled h
      simp only [List.head?_cons] at hwaits hlater ⊢
      rw [runFrom]
      generalize program.settle offset before (some c) jobs = settled at hwaits hlater ⊢
      obtain ⟨ready, hit⟩ := settled
      have hbehind := read?_finds rfl hwaits hlater
      rw [Option.or_assoc, ← Option.map_or]
      dsimp only
      split
      case isTrue hempty =>
          obtain rfl : ready = [] := List.isEmpty_iff.mp hempty
          cases hlater
          rfl
      case isFalse => exact ih _ _ _ hbehind

-- The match of a search is the one that is found by trying one way after the other. A thread is
-- only dropped where another one has come to the same address before, and that one finds whatever
-- the dropped one would.
theorem search_stop_eq (h : program.Finds place 0 found) :
    (program.search place).map Hit.stop = found := by
  have hthread : program.Finds place (Thread.mk 0 .empty).pc found := h
  rw [search, runFrom_stop_eq none (.single hthread), Option.map_none, Option.or_none]

end Preference

end Program

end Regex

end StackLexer
