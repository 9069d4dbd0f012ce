import StackLexer.Proofs.Regex.MinSize
import StackLexer.Proofs.Regex.Preference
import StackLexer.Proofs.Unicode.CharSet

namespace StackLexer

-- The place behind as many characters as there are tests, if they pass them one by one.
def Place.readAll? (place : Place) (tests : List (Char → Bool)) : Option Place :=
  tests.foldlM Place.read? place

namespace Regex

namespace Expr

mutual

-- What trying an expression finds, where `next` tells what is found at a place behind it. A
-- repetition is not told.
def find {β : Type} : Expr → (next : Place → Option β) → Place → Option β
  | .empty, next, place => next place
  | .literal text, next, place => (place.readAll? (text.map (· == ·))).bind next
  | .set chars, next, place => (place.read? chars.mem).bind next
  | .look assertion, next, place =>
      if assertion.holds place.before place.after.head? then next place else none
  | .repeated .., _, _ => none
  | .group _ body, next, place => body.find next place
  | .concat parts, next, place => findAll parts next place
  | .alternation branches, next, place => findAny branches next place

-- The parts one behind the other.
def findAll {β : Type} : List Expr → (next : Place → Option β) → Place → Option β
  | [], next, place => next place
  | part :: rest, next, place => part.find (findAll rest next) place

-- The branches one after the other.
def findAny {β : Type} : List Expr → (next : Place → Option β) → Place → Option β
  | [], _, _ => none
  | branch :: rest, next, place => (branch.find next place).or (findAny rest next place)

end

-- There are no repetitions, sets are in order, and every choice has a branch. Without `forks`
-- there are no choices either, so there is one way to go at most.
inductive Plain (forks : Bool) : Expr → Prop where
  | empty : Plain forks .empty
  | literal (text : Text) : Plain forks (.literal text)
  | set {chars : CharSet} (hproper : chars.Proper) : Plain forks (.set chars)
  | look (assertion : Look) : Plain forks (.look assertion)
  | group {index : Nat} {body : Expr} (hbody : Plain forks body) : Plain forks (.group index body)
  | concat {parts : List Expr} (hparts : ∀ part ∈ parts, Plain forks part) :
      Plain forks (.concat parts)
  | alternation {branches : List Expr} (hforks : forks = true) (hne : branches ≠ [])
      (hbranches : ∀ branch ∈ branches, Plain forks branch) : Plain forks (.alternation branches)

theorem plain_set {forks : Bool} {chars : CharSet} : (set chars).Plain forks ↔ chars.Proper where
  mp h := by
    cases h with
    | set hproper => exact hproper
  mpr := .set

theorem plain_concat {forks : Bool} {parts : List Expr} :
    (concat parts).Plain forks ↔ ∀ part ∈ parts, part.Plain forks where
  mp h := by
    cases h with
    | concat hparts => exact hparts
  mpr := .concat

end Expr

namespace Program

-- The instructions stand in the program, the first of them at the address `here`.
def Has (program : Program) (here : Nat) (code : List Inst) : Prop :=
  ∀ k inst, code[k]? = some inst → program.code[here + k]? = some inst

section Has

variable {program : Program} {here : Nat} {next : Place → Option Nat}

theorem has_cons {inst : Inst} {code : List Inst} :
    program.Has here (inst :: code) ↔
      program.code[here]? = some inst ∧ program.Has (here + 1) code := by
  constructor
  · intro h
    refine ⟨h 0 inst rfl, fun k inst' hinst => ?_⟩
    rw [Nat.add_right_comm]
    exact h (k + 1) inst' hinst
  · rintro ⟨hfirst, hrest⟩ k inst' hinst
    cases k with
    | zero => exact hinst ▸ hfirst
    | succ k =>
        rw [Nat.add_comm k, ← Nat.add_assoc]
        exact hrest k inst' hinst

theorem has_append {first second : List Inst} :
    program.Has here (first ++ second) ↔
      program.Has here first ∧ program.Has (here + first.length) second := by
  induction first generalizing here with
  | nil => simp [Has]
  | cons inst first ih =>
      rw [List.cons_append, has_cons, has_cons, ih, and_assoc, List.length_cons,
        Nat.add_right_comm, Nat.add_assoc]

-- An instruction that reads finds what is found behind the character.
theorem finds_read {inst : Inst} {test : Char → Bool} (hpc : program.code[here]? = some inst)
    (hreads : inst.reads? = some test)
    (hnext : ∀ place, program.Finds place (here + 1) (next place)) (place : Place) :
    program.Finds place here ((place.read? test).bind next) := by
  cases hread : place.read? test with
  | none => exact .miss hpc hreads hread
  | some behind => exact .read hpc hreads hread (hnext behind)

theorem finds_text {text : Text} (hcode : program.Has here (text.map .char))
    (hnext : ∀ place, program.Finds place (here + text.length) (next place)) (place : Place) :
    program.Finds place here ((place.readAll? (text.map (· == ·))).bind next) := by
  induction text generalizing here place with
  | nil => exact hnext place
  | cons c text ih =>
      obtain ⟨hchar, hrest⟩ := has_cons.mp hcode
      have hbehind := ih hrest (by
        rw [Nat.add_assoc, Nat.add_comm 1]
        exact hnext)
      rw [List.map_cons, Place.readAll?, List.foldlM_cons, Option.bind_eq_bind, Option.bind_assoc]
      exact finds_read hchar rfl hbehind place

-- The expression is compiled rightly: where `next` tells what the program finds behind its code,
-- `find` tells what it finds at the beginning of it.
def Right (program : Program) (expr : Expr) : Prop :=
  ∀ here (next : Place → Option Nat), program.Has here (expr.insts here) →
    (∀ place, program.Finds place (here + expr.size) (next place)) →
      ∀ place, program.Finds place here (expr.find next place)

theorem finds_all {parts : List Expr} (hright : ∀ part ∈ parts, program.Right part)
    (hcode : program.Has here (Expr.instsAll here parts))
    (hnext : ∀ place, program.Finds place (here + Expr.sizeSum parts) (next place))
    (place : Place) : program.Finds place here (Expr.findAll parts next place) := by
  induction parts generalizing here place with
  | nil => exact hnext place
  | cons part rest ih =>
      obtain ⟨hpart, hrest⟩ := List.forall_mem_cons.mp hright
      rw [Expr.instsAll, has_append, Expr.insts_length] at hcode
      rw [Expr.findAll]
      refine hpart here _ hcode.1 (fun place => ih hrest hcode.2 ?_ place) place
      rw [Nat.add_assoc]
      exact hnext

theorem finds_any {branches : List Expr} (hne : branches ≠ [])
    (hright : ∀ branch ∈ branches, program.Right branch) {exit : Nat}
    (hexit : exit = here + Expr.sizeBranches branches)
    (hcode : program.Has here (Expr.instsBranches here exit branches))
    (hnext : ∀ place, program.Finds place exit (next place)) (place : Place) :
    program.Finds place here (Expr.findAny branches next place) := by
  induction branches generalizing here with
  | nil => contradiction
  | cons branch rest ih =>
      obtain ⟨hbranch, hrest⟩ := List.forall_mem_cons.mp hright
      cases rest with
      | nil =>
          rw [Expr.findAny, Expr.findAny, Option.or_none]
          exact hbranch here next hcode (hexit ▸ hnext) place
      | cons other rest =>
          rw [Expr.sizeBranches] at hexit
          · rw [Expr.instsBranches, List.cons_append, has_cons, has_append, has_cons,
              Expr.insts_length] at hcode
            · obtain ⟨hsplit, hown, hjump, hothers⟩ := hcode
              have hown := hbranch (here + 1) next hown fun place =>
                .jump hjump (by omega) (hnext place)
              rw [show here + 1 + branch.size + 1 = here + branch.size + 2 by omega] at hothers
              have hothers := ih (by simp) hrest (by omega) hothers
              exact .split hsplit (by omega) (by omega) (hown place) hothers
            · simp
          · simp

theorem right_of_plain {expr : Expr} (h : expr.Plain true) : program.Right expr := by
  intro here next hcode hnext place
  induction h generalizing here next place with
  | empty => exact hnext place
  | literal text =>
      rw [Expr.find]
      exact finds_text hcode hnext place
  | set =>
      rw [Expr.find]
      exact finds_read (has_cons.mp hcode).1 rfl hnext place
  | look assertion =>
      have hpc := (has_cons.mp hcode).1
      rw [Expr.find]
      split
      case isTrue hholds => exact .look hpc hholds (hnext place)
      case isFalse hfails => exact .fail hpc (Bool.eq_false_iff.mpr hfails)
  | @group index body hbody ih =>
      rw [Expr.insts, List.cons_append, has_cons, has_append, Expr.insts_length, has_cons] at hcode
      obtain ⟨hopens, hbody, hcloses, -⟩ := hcode
      rw [Expr.find]
      refine .opens hopens (ih (here + 1) next hbody (fun place => .closes hcloses ?_) place)
      rw [show here + 1 + body.size + 1 = here + (body.size + 2) by omega]
      exact hnext place
  | concat hparts ih =>
      rw [Expr.find]
      exact finds_all ih hcode hnext place
  | alternation hforks hne hbranches ih =>
      rw [Expr.find]
      exact finds_any hne ih rfl hcode hnext place

end Has

-- A search for an expression without repetitions finds what trying its parts one after the other
-- finds.
theorem search_ofExpr {expr : Expr} (h : expr.Plain true) (place : Place) :
    ((ofExpr expr).search place).map Hit.stop =
      expr.find (fun behind => some behind.offset) place := by
  have hcode : (ofExpr expr).Has 0 (expr.insts 0 ++ [Inst.accept]) := by
    intro k inst hinst
    rw [ofExpr, List.getElem?_toArray, Nat.zero_add]
    exact hinst
  obtain ⟨hexpr, haccept⟩ := has_append.mp hcode
  rw [Expr.insts_length] at haccept
  apply search_stop_eq
  exact right_of_plain h 0 _ hexpr (fun behind => .accept (has_cons.mp haccept).1) place

end Program

end Regex

end StackLexer
