import Mathlib.Data.List.Forall2

namespace StackLexer

theorem bind_eq_ok {ε α β : Type} {x : Except ε α} {f : α → Except ε β} {b : β} :
    x >>= f = .ok b ↔ ∃ a, x = .ok a ∧ f a = .ok b := by
  cases x <;> simp [bind, Except.bind]

theorem pure_eq_ok {ε α : Type} {a b : α} : (pure a : Except ε α) = .ok b ↔ a = b := by
  simp [pure, Except.pure]

-- The computations of a list all give a result, one after another.
theorem mapM_eq_ok {ε α β : Type} {f : α → Except ε β} {xs : List α} {ys : List β} :
    xs.mapM f = .ok ys ↔ List.Forall₂ (fun a b => f a = .ok b) xs ys := by
  induction xs generalizing ys with
  | nil =>
      rw [List.mapM_nil, pure_eq_ok, List.forall₂_nil_left_iff]
      exact eq_comm
  | cons a xs ih =>
      rw [List.mapM_cons, bind_eq_ok, List.forall₂_cons_left_iff]
      constructor
      · rintro ⟨b, hfirst, h⟩
        obtain ⟨rest, hrest, h⟩ := bind_eq_ok.mp h
        exact ⟨b, rest, hfirst, ih.mp hrest, (pure_eq_ok.mp h).symm⟩
      · rintro ⟨b, rest, hfirst, hrest, rfl⟩
        exact ⟨b, hfirst, bind_eq_ok.mpr ⟨rest, ih.mpr hrest, rfl⟩⟩

theorem exists_ok {ε α : Type} {x : Except ε α} (h : x.toBool = true) : ∃ a, x = .ok a := by
  cases x with
  | error e => contradiction
  | ok a => exact ⟨a, rfl⟩

-- A test of the result that the computation gives.
theorem exists_ok_of_any {ε α : Type} {x : Except ε α} {test : α → Bool}
    (h : x.toOption.any test = true) : ∃ a, x = .ok a ∧ test a = true := by
  cases x with
  | error e => contradiction
  | ok a => exact ⟨a, rfl, h⟩

-- The computation gives a good result, or it fails with a bad error.
def Settles {ε α : Type} (x : Except ε α) (good : α → Prop) (bad : ε → Prop) : Prop :=
  match x with
  | .ok a => good a
  | .error e => bad e

namespace Settles

variable {ε α β : Type} {x : Except ε α} {good : α → Prop} {bad : ε → Prop}

theorem of_ok (h : Settles x good bad) {a : α} (hx : x = .ok a) : good a := by
  subst hx
  exact h

theorem of_error (h : Settles x good bad) {e : ε} (hx : x = .error e) : bad e := by
  subst hx
  exact h

theorem mono {good' : α → Prop} (h : Settles x good bad) (himp : ∀ a, good a → good' a) :
    Settles x good' bad := by
  cases x with
  | error e => exact h
  | ok a => exact himp a h

theorem mono_bad {bad' : ε → Prop} (h : Settles x good bad) (himp : ∀ e, bad e → bad' e) :
    Settles x good bad' := by
  cases x with
  | error e => exact himp e h
  | ok a => exact h

theorem bind {f : α → Except ε β} {good' : β → Prop} (hx : Settles x good bad)
    (hf : ∀ a, good a → Settles (f a) good' bad) : Settles (x >>= f) good' bad := by
  cases x with
  | error e => exact hx
  | ok a => exact hf a hx

theorem map {f : α → β} {good' : β → Prop} (hx : Settles x good bad)
    (hf : ∀ a, good a → good' (f a)) : Settles (f <$> x) good' bad := by
  cases x with
  | error e => exact hx
  | ok a => exact hf a hx

theorem mapM {f : α → Except ε β} {fits : α → β → Prop} (xs : List α)
    (hf : ∀ a ∈ xs, Settles (f a) (fits a) bad) :
    Settles (xs.mapM f) (fun ys => List.Forall₂ fits xs ys) bad := by
  induction xs with
  | nil => exact .nil
  | cons a xs ih =>
      obtain ⟨hfirst, hrest⟩ := List.forall_mem_cons.mp hf
      rw [List.mapM_cons]
      apply hfirst.bind
      intro b hb
      apply (ih hrest).bind
      intro ys hys
      exact .cons hb hys

theorem forM {f : α → Except ε Unit} {holds : α → Prop} (xs : List α)
    (hf : ∀ a ∈ xs, Settles (f a) (fun _ => holds a) bad) :
    Settles (xs.forM f) (fun _ => ∀ a ∈ xs, holds a) bad := by
  induction xs with
  | nil => simp [Settles, pure, Except.pure]
  | cons a xs ih =>
      obtain ⟨hfirst, hrest⟩ := List.forall_mem_cons.mp hf
      change Settles (f a >>= fun _ => xs.forM f) _ _
      apply hfirst.bind
      intro _ ha
      apply (ih hrest).mono
      intro _ hxs
      exact List.forall_mem_cons.mpr ⟨ha, hxs⟩

end Settles

end StackLexer
