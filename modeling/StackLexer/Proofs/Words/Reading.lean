import StackLexer.Pattern
import StackLexer.Words

namespace StackLexer

namespace Regex.Reader.State

-- The reader takes the text in at most as many steps as it has characters, whatever comes behind.
def Takes (state : State) (text : Text) (state' : State) : Prop :=
  ∃ steps ≤ text.length, ∀ fuel rest,
    state.readAll (fuel + steps) (text ++ rest) = state'.readAll fuel rest

variable {state state' state'' : State}

theorem Takes.refl (state : State) : state.Takes [] state :=
  ⟨0, Nat.le_refl 0, fun _ _ => rfl⟩

theorem Takes.trans {first second : Text} (h : state.Takes first state')
    (h' : state'.Takes second state'') : state.Takes (first ++ second) state'' := by
  obtain ⟨steps, hle, hread⟩ := h
  obtain ⟨steps', hle', hread'⟩ := h'
  refine ⟨steps' + steps, by rw [List.length_append]; omega, fun fuel rest => ?_⟩
  rw [← Nat.add_assoc, List.append_assoc, hread, hread']

-- One step takes a character and what belongs to it.
theorem Takes.step {c : Char} (text : Text) (hverbose : state.verbose = false)
    (hread : ∀ rest, state.readOne c (text ++ rest) = some (state', rest)) :
    state.Takes (c :: text) state' := by
  refine ⟨1, by simp, fun fuel rest => ?_⟩
  rw [readAll, skip, hverbose]
  change (state.readOne c (text ++ rest)).bind _ = _
  rw [hread, Option.bind_some]

theorem readAll_of_takes {text : Text} (h : state.Takes text state')
    (hverbose : state'.verbose = false) : state.readAll (text.length + 1) text = state'.finish := by
  obtain ⟨steps, hle, hread⟩ := h
  have hlast := hread (text.length - steps + 1) []
  rw [List.append_nil, show text.length - steps + 1 + steps = text.length + 1 by omega] at hlast
  rw [hlast, readAll, skip, hverbose]
  rfl

theorem readOne_of_not_isMeta {c : Char} (h : isMeta c = false) (state : State) (rest : Text) :
    state.readOne c rest = some (state.add (.char c false), rest) := by
  unfold readOne
  split
  split <;> first | rfl | exact absurd h (by decide)

theorem readOne_escaped {c : Char} (h : isMeta c = true) (state : State) (rest : Text) :
    state.readOne '\\' (c :: rest) = some (state.add (.char c false), rest) := by
  have hescape : Reader.escape state.verbose (c :: rest) = some (.char c false, rest) := by
    unfold Reader.escape
    exact if_pos (by rw [h, Bool.true_or])
  change (Reader.escape state.verbose (c :: rest)).map _ = _
  rw [hescape]
  rfl

end Regex.Reader.State

namespace Words

open Regex

-- The characters of a word, which mean themselves.
def chars (word : Text) : List Tree := word.map (.char · false)

def tree (word : Text) : Tree := Reader.sequence (chars word).reverse

-- Inside of the group, with some branches and some of the next one read, the last ones first.
def inside (branches parts : List Tree) : Reader.State where
  verbose := false
  parts := parts
  stack := (if branches = [] then [] else [.alternation branches]) ++ [.group [] (.plain []) false]
  captures := 0
  names := []

theorem takes_escape (branches parts : List Tree) (word : Text) :
    (inside branches parts).Takes (escape word)
      (inside branches ((chars word).reverse ++ parts)) := by
  induction word generalizing parts with
  | nil => exact .refl _
  | cons c word ih =>
      have hrest := ih (.char c false :: parts)
      have hparts : (chars (c :: word)).reverse ++ parts =
          (chars word).reverse ++ .char c false :: parts := by
        rw [chars, List.map_cons, List.reverse_cons, List.append_assoc]
        rfl
      rw [hparts, Words.escape]
      split
      case isTrue hmeta =>
        exact (Reader.State.Takes.step [c] rfl (Reader.State.readOne_escaped hmeta _)).trans hrest
      case isFalse hplain =>
        rw [Bool.not_eq_true] at hplain
        have hone := Reader.State.readOne_of_not_isMeta hplain (inside branches parts)
        exact (Reader.State.Takes.step [] rfl hone).trans hrest

theorem takes_bar (branches parts : List Tree) :
    (inside branches parts).Takes ['|'] (inside (Reader.sequence parts :: branches) []) := by
  refine Reader.State.Takes.step [] rfl fun rest => ?_
  cases branches <;> rfl

-- The words with bars between them; the last one is left open.
theorem takes_words (branches : List Tree) (words : List Text) (last : Text) :
    (inside branches []).Takes (List.intercalate ['|'] ((words ++ [last]).map escape))
      (inside ((words.map tree).reverse ++ branches) (chars last).reverse) := by
  induction words generalizing branches with
  | nil =>
      rw [List.nil_append, List.map_singleton, List.intercalate_singleton]
      simpa using takes_escape branches [] last
  | cons word words ih =>
      have hne : (words ++ [last]).map escape ≠ [] := by simp
      rw [List.cons_append, List.map_cons, List.intercalate_cons_of_ne_nil hne]
      have hword := takes_escape branches [] word
      rw [List.append_nil] at hword
      have hrest := ih (tree word :: branches)
      rw [List.map_cons, List.reverse_cons, List.append_assoc _ [tree word]]
      exact (hword.trans (takes_bar branches _)).trans hrest

theorem takes_open : Reader.State.start.Takes "(?:".toList (inside [] []) :=
  Reader.State.Takes.step ['?', ':'] rfl fun _ => rfl

-- Behind the group.
def behind (tree : Tree) : Reader.State :=
  { Reader.State.start with parts := [.group (.plain []) tree] }

theorem takes_close (branches parts : List Tree) :
    (inside branches parts).Takes [')']
      (behind (Reader.choice (Reader.sequence parts :: branches))) := by
  refine Reader.State.Takes.step [] rfl fun rest => ?_
  cases branches <;> rfl

theorem depthAll_le {trees : List Tree} {n : Nat} (h : ∀ tree ∈ trees, tree.depth ≤ n) :
    Tree.depthAll trees ≤ n := by
  induction trees with
  | nil => exact Nat.zero_le n
  | cons tree trees ih =>
      obtain ⟨htree, hrest⟩ := List.forall_mem_cons.mp h
      rw [Tree.depthAll]
      exact Nat.max_le.mpr ⟨htree, ih hrest⟩

theorem depth_tree_le (word : Text) : (tree word).depth ≤ 1 := by
  have hchars : ∀ tree ∈ chars word, tree.depth ≤ 0 := by
    rw [chars, List.forall_mem_map]
    exact fun c _ => Nat.le_refl 0
  unfold tree Reader.sequence
  split
  case h_1 => exact Nat.zero_le 1
  case h_2 part hpart =>
    have hmem : part ∈ chars word := by
      rw [← List.mem_reverse, hpart]
      exact List.mem_singleton_self part
    exact Nat.le_succ_of_le (hchars part hmem)
  case h_3 =>
    rw [List.reverse_reverse, Tree.depth]
    exact Nat.succ_le_succ (depthAll_le hchars)

theorem depth_choice_le {trees : List Tree} {n : Nat} (h : ∀ tree ∈ trees, tree.depth ≤ n) :
    (Reader.choice trees).depth ≤ n + 1 := by
  unfold Reader.choice
  split
  case h_1 tree => exact Nat.le_succ_of_le (h tree List.mem_cons_self)
  case h_2 =>
    rw [Tree.depth]
    exact Nat.succ_le_succ (depthAll_le fun tree hmem => h tree (List.mem_reverse.mp hmem))

-- The text of a pattern for the words as they stand.
def pattern (words : List Text) : Text :=
  "(?:".toList ++ List.intercalate ['|'] (words.map escape) ++ [')']

-- Escaped, the characters of a word are read back one by one and mean nothing else, so the pattern
-- is a group with one branch for each word.
theorem read?_pattern {words : List Text} (h : words ≠ []) :
    Tree.read? (pattern words) =
      some (.group (.plain []) (Reader.choice (words.map tree).reverse)) := by
  obtain ⟨words, last, rfl⟩ : ∃ front last, words = front ++ [last] :=
    ⟨_, _, (List.dropLast_concat_getLast h).symm⟩
  have hwords := takes_words [] words last
  rw [List.append_nil] at hwords
  have htakes := (takes_open.trans hwords).trans (takes_close _ _)
  have htrees : Reader.sequence (chars last).reverse :: (words.map tree).reverse =
      ((words ++ [last]).map tree).reverse := by
    rw [List.map_append, List.reverse_append]
    rfl
  rw [htrees] at htakes
  have hread := Reader.State.readAll_of_takes htakes rfl
  have hdepth : (Reader.choice ((words ++ [last]).map tree).reverse).depth ≤ 2 := by
    refine depth_choice_le fun tree hmem => ?_
    obtain ⟨word, -, rfl⟩ := List.mem_map.mp (List.mem_reverse.mp hmem)
    exact depth_tree_le word
  have hlow : (Tree.group (.plain []) (Reader.choice ((words ++ [last]).map tree).reverse)).depth ≤
      Tree.maxDepth := by
    rw [Tree.depth, Tree.maxDepth]
    omega
  rw [Tree.read?, pattern, hread]
  exact if_pos hlow

end Words

end StackLexer
