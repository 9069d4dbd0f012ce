import StackLexer.Proofs.Regex.Search

namespace StackLexer

namespace Regex.Program

-- The offset is one of a place that a thread has passed on its way from `start` to `place`.
def Passed (start place : Place) (offset : Nat) : Prop :=
  ∃ read more, Between start place (read ++ more) ∧ offset = start.offset + Text.size read

theorem Passed.past {start place : Place} {offset : Nat} (h : Passed start place offset)
    {c : Char} {rest : Text} (hc : place.after = c :: rest) :
    Passed start (place.past c rest) offset := by
  obtain ⟨read, more, hbetween, hoffset⟩ := h
  have hpast := hbetween.past hc
  rw [List.append_assoc] at hpast
  exact ⟨read, more ++ [c], hpast, hoffset⟩

theorem Passed.le {start place : Place} {offset : Nat} (h : Passed start place offset) :
    start.offset ≤ offset ∧ offset ≤ place.offset := by
  obtain ⟨read, more, ⟨-, hplace⟩, rfl⟩ := h
  rw [hplace, Text.size_append]
  omega

theorem Between.passed {start place : Place} {read : Text} (h : Between start place read) :
    Passed start place place.offset :=
  ⟨read, [], by rwa [List.append_nil], h.2⟩

-- A thread on its way from `start` to `place`, and the groups that it has opened and closed.
structure OnWay (start place : Place) (captures : Captures) : Prop where
  between : ∃ read, Between start place read
  opened : ∀ group offset, (group, offset) ∈ captures.opened → Passed start place offset
  closed : ∀ group span, (group, span) ∈ captures.closed →
    Passed start place span.start ∧ Passed start place span.stop ∧ span.start ≤ span.stop

namespace OnWay

variable {start place : Place} {captures : Captures}

theorem refl (start : Place) : OnWay start start .empty :=
  ⟨⟨[], .refl start⟩, by simp [Captures.empty], by simp [Captures.empty]⟩

theorem past (h : OnWay start place captures) {c : Char} {rest : Text}
    (hc : place.after = c :: rest) : OnWay start (place.past c rest) captures where
  between := by
    obtain ⟨read, hbetween⟩ := h.between
    exact ⟨_, hbetween.past hc⟩
  opened group offset hmem := (h.opened group offset hmem).past hc
  closed group span hmem := by
    obtain ⟨hstart, hstop, hle⟩ := h.closed group span hmem
    exact ⟨hstart.past hc, hstop.past hc, hle⟩

theorem openAt (h : OnWay start place captures) (group : Nat) :
    OnWay start place (captures.openAt group place.offset) where
  between := h.between
  opened other offset hmem := by
    rcases List.mem_cons.mp hmem with heq | hmem
    · obtain ⟨read, hbetween⟩ := h.between
      obtain ⟨-, rfl⟩ := Prod.mk.inj heq
      exact hbetween.passed
    · exact h.opened other offset (List.mem_filter.mp hmem).1
  closed := h.closed

theorem closeAt (h : OnWay start place captures) (group : Nat) :
    OnWay start place (captures.closeAt group place.offset) := by
  unfold Captures.closeAt
  split
  case h_2 => exact h
  case h_1 first hfirst =>
    obtain ⟨before, after, hopened, -⟩ := List.lookup_eq_some_iff.mp hfirst
    have hpassed := h.opened group first (by simp [hopened])
    refine ⟨h.between, h.opened, fun other span hmem => ?_⟩
    rcases List.mem_cons.mp hmem with heq | hmem
    · obtain ⟨read, hbetween⟩ := h.between
      obtain ⟨-, rfl⟩ := Prod.mk.inj heq
      exact ⟨hpassed, hbetween.passed, hpassed.le.2⟩
    · exact h.closed other span (List.mem_filter.mp hmem).1

end OnWay

theorem stable_onWay (program : Program) (start : Place) :
    program.Stable fun place thread => OnWay start place thread.captures := by
  intro place thread place' thread' hmove h
  cases hmove with
  | char _ hc => exact h.past hc
  | set _ _ hc => exact h.past hc
  | opens => exact h.openAt _
  | closes => exact h.closeAt _
  | _ => exact h

-- The thread that accepts has passed both ends of each of its groups.
theorem search_groups (program : Program) (start : Place) (hit : Hit)
    (hsearch : program.search start = some hit) {group : Nat} {span : Span}
    (hspan : hit.captures.span? group = some span) :
    ∃ place, place.offset = hit.stop ∧ Passed start place span.start ∧
      Passed start place span.stop ∧ span.start ≤ span.stop := by
  obtain ⟨place, pc, honway, -, hstop⟩ :=
    search_keeps (stable_onWay program start) start (.refl start) hit hsearch
  obtain ⟨before, after, hclosed, -⟩ := List.lookup_eq_some_iff.mp hspan
  obtain ⟨hfirst, hlast, hle⟩ := honway.closed group span (by simp [hclosed])
  exact ⟨place, hstop.symm, hfirst, hlast, hle⟩

end Regex.Program

-- What a search has passed is a boundary of the text in which it started.
theorem Regex.Program.Passed.isBoundary {text : Text} {offset : Nat} {start place : Place}
    (hstart : text.place? offset = some start) {reached : Nat} (h : Passed start place reached) :
    text.isBoundary reached = true := by
  obtain ⟨first, htext, hfirst, hoffset⟩ := Text.place?_eq_some hstart
  obtain ⟨read, more, ⟨hafter, -⟩, rfl⟩ := h
  refine Text.isBoundary_iff.mpr ⟨first ++ read, more ++ place.after, ?_, ?_⟩
  · rw [htext, hafter, List.append_assoc, List.append_assoc]
  · rw [Text.size_append, hfirst, hoffset]

-- A group is opened and closed at places that the thread has come to, so its span lies inside of
-- the match, and both of its ends are boundaries of the text.
theorem Pattern.matchText_groups {pattern : Pattern} {text : Text} {offset : Nat} {found : Match}
    (h : pattern.matchText text offset = some found) :
    ∀ span, some span ∈ found.groups → text.Inside found.span span := by
  obtain ⟨place, hplace, hmatch⟩ := Option.bind_eq_some_iff.mp h
  obtain ⟨hit, hsearch, rfl⟩ := Option.map_eq_some_iff.mp hmatch
  intro span hmem
  obtain ⟨group, -, hspan⟩ := List.mem_map.mp hmem
  obtain ⟨last, hlast, hstart, hstop, hle⟩ :=
    Regex.Program.search_groups pattern.program place hit hsearch hspan
  refine ⟨hstart.le.1, hle, ?_, hstart.isBoundary hplace, hstop.isBoundary hplace⟩
  rw [← hlast]
  exact hstop.le.2

end StackLexer
