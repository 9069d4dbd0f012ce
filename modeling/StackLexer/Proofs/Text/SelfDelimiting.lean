import StackLexer.Text
import Mathlib.Logic.Function.Basic

namespace StackLexer

-- A text that begins with what is written for a value has no other value in front, and leaves the
-- same rest.
def SelfDelimiting {α : Type} (write : α → Text) : Prop :=
  ∀ ⦃a b rest rest'⦄, write a ++ rest = write b ++ rest' → a = b ∧ rest = rest'

namespace SelfDelimiting

variable {α β : Type} {write : α → Text} {write' : β → Text}

theorem comp (h : SelfDelimiting write) {f : β → α} (hf : Function.Injective f) :
    SelfDelimiting fun b => write (f b) := by
  intro a b rest rest' heq
  obtain ⟨hvalue, hrest⟩ := h heq
  exact ⟨hf hvalue, hrest⟩

-- The same text in front of everything.
theorem lead (h : SelfDelimiting write) (before : Text) :
    SelfDelimiting fun a => before ++ write a := by
  intro a b rest rest' heq
  simp only [List.append_assoc] at heq
  exact h (List.append_cancel_left heq)

-- A text behind each value that the value decides.
theorem trail (h : SelfDelimiting write) (after : α → Text) :
    SelfDelimiting fun a => write a ++ after a := by
  intro a b rest rest' heq
  simp only [List.append_assoc] at heq
  obtain ⟨rfl, hrest⟩ := h heq
  exact ⟨rfl, List.append_cancel_left hrest⟩

theorem append (h : SelfDelimiting write) (h' : SelfDelimiting write') :
    SelfDelimiting fun pair : α × β => write pair.1 ++ write' pair.2 := by
  rintro ⟨a, b⟩ ⟨c, d⟩ rest rest' heq
  simp only [List.append_assoc] at heq
  obtain ⟨rfl, hbehind⟩ := h heq
  obtain ⟨rfl, hrest⟩ := h' hbehind
  exact ⟨rfl, hrest⟩

-- A mark that occurs in no value ends it.
theorem of_mark (hwrite : Function.Injective write) {mark : Char} (hmark : ∀ a, mark ∉ write a) :
    SelfDelimiting fun a => write a ++ [mark] := by
  intro a b rest rest' heq
  have hfirst (value : α) (after : Text) :
      (write value ++ [mark] ++ after).takeWhile (· != mark) = write value := by
    have hin : ∀ c ∈ write value, (c != mark) = true := by
      intro c hmem
      rw [bne_iff_ne]
      rintro rfl
      exact hmark value hmem
    rw [List.append_assoc, List.takeWhile_append_of_pos hin]
    simp
  have hvalue := (hfirst a rest).symm.trans ((congrArg _ heq).trans (hfirst b rest'))
  obtain rfl := hwrite hvalue
  exact ⟨rfl, List.append_cancel_left heq⟩

-- Blanks in front of a value that does not begin with one, as many as the value asks for.
theorem blanks (h : SelfDelimiting write) (count : α → Nat)
    (hhead : ∀ a, ∃ c rest, write a = c :: rest ∧ c ≠ ' ') :
    SelfDelimiting fun a => List.replicate (count a) ' ' ++ write a := by
  intro a b rest rest' heq
  have hdrop (value : α) (after : Text) :
      (List.replicate (count value) ' ' ++ write value ++ after).dropWhile (· == ' ') =
        write value ++ after := by
    obtain ⟨c, tail, hwrite, hne⟩ := hhead value
    rw [List.append_assoc, List.dropWhile_append_of_pos (by simp), hwrite, List.cons_append,
      List.dropWhile_cons_of_neg (by simpa using hne)]
  exact h ((hdrop a rest).symm.trans ((congrArg _ heq).trans (hdrop b rest')))

-- Values one after another are told from what follows them if no value begins it.
theorem flatMap_append (h : SelfDelimiting write) {as bs : List α} {rest rest' : Text}
    (hrest : ∀ a after, rest ≠ write a ++ after) (hrest' : ∀ a after, rest' ≠ write a ++ after)
    (heq : as.flatMap write ++ rest = bs.flatMap write ++ rest') : as = bs ∧ rest = rest' := by
  induction as generalizing bs with
  | nil =>
    cases bs with
    | nil => exact ⟨rfl, heq⟩
    | cons b bs =>
      rw [List.flatMap_cons, List.append_assoc] at heq
      exact absurd heq (hrest b _)
  | cons a as ih =>
    cases bs with
    | nil =>
      rw [List.flatMap_cons, List.append_assoc] at heq
      exact absurd heq.symm (hrest' a _)
    | cons b bs =>
      simp only [List.flatMap_cons, List.append_assoc] at heq
      obtain ⟨rfl, hbehind⟩ := h heq
      obtain ⟨rfl, hend⟩ := ih hbehind
      exact ⟨rfl, hend⟩

-- Values one after another, up to a mark that none of them begins with.
theorem list (h : SelfDelimiting write) {mark : Char}
    (hhead : ∀ a, ∃ c rest, write a = c :: rest ∧ c ≠ mark) :
    SelfDelimiting fun values : List α => values.flatMap write ++ [mark] := by
  have hmark (text : Text) : ∀ a after, mark :: text ≠ write a ++ after := by
    rintro a after heq
    obtain ⟨c, rest, hwrite, hne⟩ := hhead a
    rw [hwrite] at heq
    exact hne (List.cons.inj heq).1.symm
  intro as bs rest rest' heq
  rw [List.append_assoc, List.append_assoc] at heq
  obtain ⟨rfl, hend⟩ := h.flatMap_append (hmark rest) (hmark rest') heq
  exact ⟨rfl, (List.cons.inj hend).2⟩

theorem flatMap_injective (h : SelfDelimiting write) (hne : ∀ a, write a ≠ []) :
    Function.Injective fun values : List α => values.flatMap write := by
  have hnil : ∀ a after, [] ≠ write a ++ after := by
    intro a after heq
    exact hne a (List.append_eq_nil_iff.mp heq.symm).1
  intro as bs heq
  exact (h.flatMap_append hnil hnil (congrArg (· ++ []) heq)).1

end SelfDelimiting

end StackLexer
