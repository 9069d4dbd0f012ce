import StackLexer.Pattern
import StackLexer.Proofs.Text.Cut

namespace StackLexer

-- The place behind the next character.
def Place.past (place : Place) (c : Char) (rest : Text) : Place :=
  ⟨place.offset + c.utf8Size, some c, rest⟩

namespace Regex.Program

-- One instruction carried out by a thread.
inductive Move (program : Program) : Place → Thread → Place → Thread → Prop where
  | char {place pc captures c rest} (hpc : program.code[pc]? = some (.char c))
      (hc : place.after = c :: rest) :
      Move program place ⟨pc, captures⟩ (place.past c rest) ⟨pc + 1, captures⟩
  | set {place pc captures chars c rest} (hpc : program.code[pc]? = some (.set chars))
      (hmem : chars.mem c = true) (hc : place.after = c :: rest) :
      Move program place ⟨pc, captures⟩ (place.past c rest) ⟨pc + 1, captures⟩
  | look {place pc captures look} (hpc : program.code[pc]? = some (.look look))
      (hlook : look.holds place.before place.after.head? = true) :
      Move program place ⟨pc, captures⟩ place ⟨pc + 1, captures⟩
  | opens {place pc captures group} (hpc : program.code[pc]? = some (.opens group)) :
      Move program place ⟨pc, captures⟩ place ⟨pc + 1, captures.openAt group place.offset⟩
  | closes {place pc captures group} (hpc : program.code[pc]? = some (.closes group)) :
      Move program place ⟨pc, captures⟩ place ⟨pc + 1, captures.closeAt group place.offset⟩
  | first {place pc captures first second} (hpc : program.code[pc]? = some (.split first second)) :
      Move program place ⟨pc, captures⟩ place ⟨first, captures⟩
  | second {place pc captures first second}
      (hpc : program.code[pc]? = some (.split first second)) :
      Move program place ⟨pc, captures⟩ place ⟨second, captures⟩
  | jump {place pc captures target} (hpc : program.code[pc]? = some (.jump target)) :
      Move program place ⟨pc, captures⟩ place ⟨target, captures⟩

-- Every move keeps the invariant.
def Stable (program : Program) (Inv : Place → Thread → Prop) : Prop :=
  ∀ place thread place' thread', program.Move place thread place' thread' →
    Inv place thread → Inv place' thread'

section Keeps

variable {program : Program} {Inv : Place → Thread → Prop}

-- Every thread of a list satisfies the invariant at a place.
def AllAt (Inv : Place → Thread → Prop) (place : Place) (threads : List Thread) : Prop :=
  ∀ thread ∈ threads, Inv place thread

theorem AllAt.cons {place : Place} {thread : Thread} {threads : List Thread}
    (hthread : Inv place thread) (hthreads : AllAt Inv place threads) :
    AllAt Inv place (thread :: threads) :=
  List.forall_mem_cons.mpr ⟨hthread, hthreads⟩

theorem AllAt.reverse {place : Place} {threads : List Thread} (h : AllAt Inv place threads) :
    AllAt Inv place threads.reverse :=
  fun thread hmem => h thread (List.mem_reverse.mp hmem)

-- The hit is that of a thread that accepts at the place.
def HitAt (program : Program) (Inv : Place → Thread → Prop) (place : Place) (hit : Hit) : Prop :=
  ∃ pc, Inv place ⟨pc, hit.captures⟩ ∧ program.code[pc]? = some .accept ∧ hit.stop = place.offset

-- What is settled at a place satisfies the invariant: the threads that wait, and the hit.
def SettledAt (program : Program) (Inv : Place → Thread → Prop) (place : Place)
    (settled : List Thread × Option Hit) : Prop :=
  AllAt Inv place settled.1 ∧ ∀ hit ∈ settled.2, HitAt program Inv place hit

theorem settleFrom_keeps (hmove : program.Stable Inv) (place : Place)
    (fuel visited : Nat) (ready jobs : List Thread)
    (hready : AllAt Inv place ready) (hjobs : AllAt Inv place jobs) :
    SettledAt program Inv place
      (program.settleFrom place.offset place.before place.after.head? fuel visited ready jobs) := by
  induction fuel generalizing visited ready jobs with
  | zero => exact ⟨hready.reverse, by simp [settleFrom]⟩
  | succ fuel ih =>
      cases jobs with
      | nil => exact ⟨hready.reverse, by simp [settleFrom]⟩
      | cons thread jobs =>
          obtain ⟨pc, captures⟩ := thread
          obtain ⟨hthread, hjobs⟩ := List.forall_mem_cons.mp hjobs
          -- a job that is left behind at the place keeps the invariant as any other move does
          have hstay : ∀ thread', program.Move place ⟨pc, captures⟩ place thread' →
              AllAt Inv place (thread' :: jobs) :=
            fun thread' h => .cons (hmove _ _ _ _ h hthread) hjobs
          rw [settleFrom]
          split
          · exact ih _ _ _ hready hjobs
          · split
            case h_1 => exact ih _ _ _ hready hjobs
            case h_2 hpc => exact ih _ _ _ (.cons hthread hready) hjobs
            case h_3 hpc => exact ih _ _ _ (.cons hthread hready) hjobs
            case h_4 look hpc =>
              split
              · exact ih _ _ _ hready (hstay _ (.look hpc (by assumption)))
              · exact ih _ _ _ hready hjobs
            case h_5 hpc => exact ih _ _ _ hready (hstay _ (.opens hpc))
            case h_6 hpc => exact ih _ _ _ hready (hstay _ (.closes hpc))
            case h_7 hpc =>
              exact ih _ _ _ hready
                (.cons (hmove _ _ _ _ (.first hpc) hthread) (hstay _ (.second hpc)))
            case h_8 hpc => exact ih _ _ _ hready (hstay _ (.jump hpc))
            case h_9 hpc =>
              refine ⟨hready.reverse, fun hit hhit => ?_⟩
              obtain rfl := Option.mem_some.mp hhit
              exact ⟨pc, hthread, hpc, rfl⟩

theorem settle_keeps (hmove : program.Stable Inv)
    (place : Place) (jobs : List Thread) (hjobs : AllAt Inv place jobs) :
    SettledAt program Inv place
      (program.settle place.offset place.before place.after.head? jobs) :=
  settleFrom_keeps hmove place _ _ _ _ (by simp [AllAt]) hjobs

theorem read?_keeps (hmove : program.Stable Inv)
    {place : Place} {c : Char} {rest : Text} (hafter : place.after = c :: rest)
    {ready : List Thread} (hready : AllAt Inv place ready) :
    AllAt Inv (place.past c rest) (ready.filterMap (program.read? c)) := by
  intro thread' hmem
  obtain ⟨⟨pc, captures⟩, hthread, hread⟩ := List.mem_filterMap.mp hmem
  have hinv := hready _ hthread
  rw [read?] at hread
  split at hread
  case h_1 d hpc =>
    split at hread
    · obtain rfl := Option.some.inj hread
      subst d
      exact hmove _ _ _ _ (.char hpc hafter) hinv
    · contradiction
  case h_2 chars hpc =>
    split at hread
    · obtain rfl := Option.some.inj hread
      exact hmove _ _ _ _ (.set hpc (by assumption) hafter) hinv
    · contradiction
  case h_3 => contradiction

-- An accepting thread at some place, unless the match is the one found earlier.
theorem runFrom_keeps (hmove : program.Stable Inv)
    (place : Place) (best : Option Hit) (jobs : List Thread) (hjobs : AllAt Inv place jobs)
    (hit : Hit)
    (hrun : program.runFrom place.offset place.before best jobs place.after = some hit) :
    best = some hit ∨ ∃ place', HitAt program Inv place' hit := by
  obtain ⟨offset, before, after⟩ := place
  induction after generalizing offset before best jobs with
  | nil =>
      obtain ⟨-, hhit⟩ := settle_keeps hmove ⟨offset, before, []⟩ jobs hjobs
      rcases Option.or_eq_some_iff.mp hrun with h | ⟨-, h⟩
      · exact .inr ⟨_, hhit hit h⟩
      · exact .inl h
  | cons c rest ih =>
      have hsettled := settle_keeps hmove ⟨offset, before, c :: rest⟩ jobs hjobs
      simp only [runFrom, List.head?_cons] at hrun hsettled
      generalize program.settle offset before (some c) jobs = settled at hrun hsettled
      obtain ⟨ready, found⟩ := settled
      obtain ⟨hready, hhit⟩ := hsettled
      -- the best match so far is found here, or else was found earlier
      have hbest : found.or best = some hit →
          best = some hit ∨ ∃ place', HitAt program Inv place' hit := by
        intro h
        rcases Option.or_eq_some_iff.mp h with h | ⟨-, h⟩
        · exact .inr ⟨_, hhit hit h⟩
        · exact .inl h
      split at hrun
      · exact hbest hrun
      · rcases ih _ _ _ _ (read?_keeps hmove rfl hready) hrun with h | h
        · exact hbest h
        · exact .inr h

-- What every move of a thread keeps holds at the end of a match of the thread that accepts there.
theorem search_keeps (hmove : program.Stable Inv)
    (place : Place) (hstart : Inv place ⟨0, .empty⟩) (hit : Hit)
    (hsearch : program.search place = some hit) :
    ∃ place', HitAt program Inv place' hit := by
  have hjobs : AllAt Inv place [⟨0, .empty⟩] := .cons hstart (by simp [AllAt])
  rcases runFrom_keeps hmove place none _ hjobs hit hsearch with h | h
  · contradiction
  · exact h

end Keeps

-- The text between the place where a search starts and one that a thread has come to.
def Between (start place : Place) (read : Text) : Prop :=
  start.after = read ++ place.after ∧ place.offset = start.offset + Text.size read

theorem Between.refl (place : Place) : Between place place [] := ⟨rfl, rfl⟩

theorem Between.past {start place : Place} {read rest : Text} {c : Char}
    (h : Between start place read) (hc : place.after = c :: rest) :
    Between start (place.past c rest) (read ++ [c]) := by
  obtain ⟨htext, hoffset⟩ := h
  constructor
  · simp only [htext, hc, Place.past, List.append_assoc, List.cons_append, List.nil_append]
  · simp only [Place.past, hoffset, Text.size_append, Text.size_cons, Text.size_nil]
    omega

-- No move goes back or leaves the text.
theorem stable_between (program : Program) (start : Place) :
    program.Stable fun place _ => ∃ read, Between start place read := by
  rintro place thread place' thread' hmove ⟨read, h⟩
  cases hmove with
  | char _ hc => exact ⟨_, h.past hc⟩
  | set _ _ hc => exact ⟨_, h.past hc⟩
  | _ => exact ⟨read, h⟩

-- A match takes up a part of the text behind the place, from its beginning on.
theorem search_stop (program : Program) (place : Place) (hit : Hit)
    (hsearch : program.search place = some hit) :
    ∃ read rest, place.after = read ++ rest ∧ hit.stop = place.offset + Text.size read := by
  obtain ⟨place', pc, ⟨read, hafter, hoffset⟩, -, hstop⟩ :=
    search_keeps (stable_between program place) place ⟨[], .refl place⟩ hit hsearch
  exact ⟨read, place'.after, hafter, hstop.trans hoffset⟩

-- A program that only accepts does so where it starts.
theorem search_empty {place : Place} {hit : Hit}
    (hsearch : (Program.ofExpr .empty).search place = some hit) : hit.stop = place.offset := by
  have hstable : (Program.ofExpr .empty).Stable fun reached _ => reached = place := by
    intro reached thread reached' thread' hmove hreached
    cases hmove with
    | char hpc hc => exact absurd (Array.mem_of_getElem? hpc) (by simp [ofExpr, Expr.insts])
    | set hpc hmem hc => exact absurd (Array.mem_of_getElem? hpc) (by simp [ofExpr, Expr.insts])
    | _ => exact hreached
  obtain ⟨reached, pc, hreached, -, hstop⟩ := search_keeps hstable place rfl hit hsearch
  rw [hstop, hreached]

end Regex.Program

-- A match starts at the place and takes up the text behind it up to its end.
theorem Pattern.matchAt_span {pattern : Pattern} {place : Place} {found : Match}
    (h : pattern.matchAt place = some found) :
    found.span.start = place.offset ∧
      ∃ read rest,
        place.after = read ++ rest ∧ found.span.stop = place.offset + Text.size read := by
  obtain ⟨hit, hsearch, rfl⟩ := Option.map_eq_some_iff.mp h
  exact ⟨rfl, Regex.Program.search_stop pattern.program place hit hsearch⟩

end StackLexer
