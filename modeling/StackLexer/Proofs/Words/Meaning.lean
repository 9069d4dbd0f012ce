import StackLexer.Proofs.Regex.Simplified
import StackLexer.Proofs.Unicode.Folding
import StackLexer.Proofs.Words.Reading

namespace StackLexer

-- The first character, in a pattern with these flags, stands for the second one.
def MatchFlags.agrees (flags : MatchFlags) (c d : Char) : Bool :=
  if flags.caseInsensitive then equalUpToCase c d else c == d

namespace Regex.Expr

-- The expression takes as many characters as there are tests, if they pass them one by one, and
-- nothing else.
structure Spells (expr : Expr) (tests : List (Char → Bool)) : Prop where
  plain : expr.Plain false
  finds : ∀ {β : Type} (next : Place → Option β) place,
    expr.find next place = (place.readAll? tests).bind next

section Spells

variable {flags : MatchFlags}

theorem spells_empty : Spells .empty [] where
  plain := .empty
  finds _ _ := rfl

theorem spells_char (c : Char) : Spells (.literal [c]) [(c == ·)] where
  plain := .literal [c]
  finds _ _ := rfl

-- A set that is given by its code points.
theorem spells_points {points : List Nat} (hvalid : ∀ n ∈ points, n.isValidChar) :
    Spells (chars (.ofPairs (points.map fun n => (n, n)))) [fun d => points.contains d.toNat] := by
  have hranges : ∀ range ∈ (points.map fun n => (n, n)).map fun p => CharRange.mk p.1 p.2,
      range.lo.isValidChar := by
    simpa using hvalid
  have hproper : (CharSet.ofPairs (points.map fun n => (n, n))).Proper :=
    CharSet.ofRanges_proper hranges
  have hmem : (CharSet.ofPairs (points.map fun n => (n, n))).mem =
      fun d => points.contains d.toNat := by
    funext d
    rw [Bool.eq_iff_iff, CharSet.ofPairs, CharSet.mem_ofRanges, List.contains_iff_mem]
    simp only [CharSet.Holds, List.mem_map, exists_exists_and_eq_and]
    constructor
    · rintro ⟨n, hn, hle, hge⟩
      rwa [Nat.le_antisymm hge hle]
    · exact fun hn => ⟨d.toNat, hn, Nat.le_refl _, Nat.le_refl _⟩
  refine ⟨plain_chars hproper, fun next place => ?_⟩
  rw [find_chars hproper, Place.readAll?_single, hmem]

theorem char?_spells (flags : MatchFlags) (c : Char) :
    ∃ expr, char? flags.toFlags c false = some expr ∧ expr.Spells [flags.agrees c] := by
  unfold char?
  rw [if_pos (show flags.toFlags.unicode = true from rfl)]
  cases hcase : flags.caseInsensitive with
  | false =>
      have hagrees : flags.agrees c = (c == ·) := by
        funext d
        rw [MatchFlags.agrees, hcase, if_neg Bool.false_ne_true]
      rw [MatchFlags.toFlags, hcase, hagrees]
      exact ⟨_, rfl, spells_char c⟩
  | true =>
      have hagrees :
          flags.agrees c = fun d => (c.toNat :: foldPartners c.toNat).contains d.toNat := by
        funext d
        rw [MatchFlags.agrees, hcase, if_pos rfl, equalUpToCase, List.contains_cons,
          Bool.eq_iff_iff, Bool.or_eq_true, Bool.or_eq_true, beq_iff_eq, beq_iff_eq,
          ← Char.toNat_inj, eq_comm]
      rw [MatchFlags.toFlags, hcase, hagrees, if_pos rfl]
      have hvalid : ∀ n ∈ c.toNat :: foldPartners c.toNat, n.isValidChar :=
        List.forall_mem_cons.mpr ⟨c.valid, fun n => isValidChar_of_mem_foldPartners⟩
      cases hpartners : foldPartners c.toNat with
      | nil =>
          refine ⟨_, rfl, ?_⟩
          have hsingle : (fun d : Char => [c.toNat].contains d.toNat) = (c == ·) := by
            funext d
            rw [Bool.eq_iff_iff, List.contains_iff_mem, List.mem_singleton, beq_iff_eq,
              ← Char.toNat_inj, eq_comm]
          rw [hsingle]
          exact spells_char c
      | cons partner partners =>
          rw [hpartners] at hvalid
          exact ⟨_, rfl, spells_points hvalid⟩

theorem findAll_spells {exprs : List Expr} {tests : List (Char → Bool)}
    (h : List.Forall₂ (fun expr test => expr.Spells [test]) exprs tests) {β : Type}
    (next : Place → Option β) (place : Place) :
    findAll exprs next place = (place.readAll? tests).bind next := by
  induction h generalizing place with
  | nil => rfl
  | cons hexpr _ ih =>
      rw [findAll, hexpr.finds, Place.readAll?_single, Place.readAll?, List.foldlM_cons,
        Option.bind_eq_bind, Option.bind_assoc]
      exact congrArg _ (funext ih)

theorem plain_of_spells {exprs : List Expr} {tests : List (List (Char → Bool))}
    (h : List.Forall₂ Spells exprs tests) : ∀ expr ∈ exprs, expr.Plain false := by
  induction h with
  | nil => simp
  | cons hexpr _ ih => exact List.forall_mem_cons.mpr ⟨hexpr.plain, ih⟩

theorem sequence_spells {exprs : List Expr} {tests : List (Char → Bool)}
    (h : List.Forall₂ (fun expr test => expr.Spells [test]) exprs tests) :
    (sequence exprs).Spells tests where
  plain := by
    have hmap : List.Forall₂ Spells exprs (tests.map ([·])) := List.forall₂_map_right_iff.mpr h
    exact plain_sequence (plain_of_spells hmap)
  finds next place := by rw [find_sequence, findAll_spells h]

theorem findAny_spells {exprs : List Expr} {tests : List (List (Char → Bool))}
    (h : List.Forall₂ Spells exprs tests) {β : Type} (next : Place → Option β) (place : Place) :
    findAny exprs next place = tests.findSome? fun tests => (place.readAll? tests).bind next := by
  induction h with
  | nil => rfl
  | @cons expr tests _ others hexpr _ ih =>
      rw [findAny, hexpr.finds, ih, List.findSome?_cons]
      cases (place.readAll? tests).bind next <;> rfl

theorem ofTrees?_chars (flags : MatchFlags) (word : Text) :
    ∃ exprs, ofTrees? flags.toFlags (Words.chars word) = some (exprs, flags.toFlags) ∧
      List.Forall₂ (fun expr test => expr.Spells [test]) exprs (word.map flags.agrees) := by
  induction word with
  | nil => exact ⟨[], rfl, .nil⟩
  | cons c word ih =>
      obtain ⟨expr, hexpr, hspells⟩ := char?_spells flags c
      obtain ⟨exprs, hexprs, hall⟩ := ih
      refine ⟨expr :: exprs, ?_, .cons hspells hall⟩
      change (ofTree? flags.toFlags (.char c false)).bind _ = _
      rw [ofTree?, hexpr, Option.map_some, Option.bind_some]
      change (ofTrees? flags.toFlags (Words.chars word)).bind _ = _
      rw [hexprs]
      rfl

theorem ofTree?_tree (flags : MatchFlags) (word : Text) :
    ∃ expr, ofTree? flags.toFlags (Words.tree word) = some (expr, flags.toFlags) ∧
      expr.Spells (word.map flags.agrees) := by
  match word with
  | [] => exact ⟨.empty, rfl, spells_empty⟩
  | [c] =>
      obtain ⟨expr, hexpr, hspells⟩ := char?_spells flags c
      refine ⟨expr, ?_, hspells⟩
      change ofTree? flags.toFlags (.char c false) = _
      rw [ofTree?, hexpr]
      rfl
  | c :: d :: word =>
      obtain ⟨exprs, hexprs, hspells⟩ := ofTrees?_chars flags (c :: d :: word)
      refine ⟨sequence exprs, ?_, sequence_spells hspells⟩
      have htree : Words.tree (c :: d :: word) = .concat (Words.chars (c :: d :: word)) := by
        unfold Words.tree Reader.sequence
        split
        case h_1 h => simp [Words.chars] at h
        case h_2 h => simpa [Words.chars] using congrArg List.length h
        case h_3 => rw [List.reverse_reverse]
      rw [htree, ofTree?]
      change (ofTrees? flags.toFlags (Words.chars (c :: d :: word))).bind _ = _
      rw [hexprs]
      rfl

theorem ofTrees?_trees (flags : MatchFlags) (words : List Text) :
    ∃ exprs, ofTrees? flags.toFlags (words.map Words.tree) = some (exprs, flags.toFlags) ∧
      List.Forall₂ Spells exprs (words.map (·.map flags.agrees)) := by
  induction words with
  | nil => exact ⟨[], rfl, .nil⟩
  | cons word words ih =>
      obtain ⟨expr, hexpr, hspells⟩ := ofTree?_tree flags word
      obtain ⟨exprs, hexprs, hall⟩ := ih
      refine ⟨expr :: exprs, ?_, .cons hspells hall⟩
      change (ofTree? flags.toFlags (Words.tree word)).bind _ = _
      rw [hexpr, Option.bind_some]
      change (ofTrees? flags.toFlags (words.map Words.tree)).bind _ = _
      rw [hexprs]
      rfl

-- The expression of the choice between the words tries them one after the other.
theorem ofTree?_choice (flags : MatchFlags) {words : List Text} (hne : words ≠ []) :
    ∃ branches expr,
      ofTree? flags.toFlags (Reader.choice (words.map Words.tree).reverse) =
        some (expr, flags.toFlags) ∧
      List.Forall₂ Spells branches (words.map (·.map flags.agrees)) ∧ Chooses branches expr := by
  match words with
  | [word] =>
      obtain ⟨expr, hexpr, hspells⟩ := ofTree?_tree flags word
      exact ⟨[expr], expr, hexpr, .cons hspells .nil, chooses_single hspells.plain⟩
  | first :: second :: words =>
      obtain ⟨branches, hbranches, hspells⟩ := ofTrees?_trees flags (first :: second :: words)
      have hsome : branches ≠ [] := by
        rintro rfl
        cases hspells
      refine ⟨branches, choice branches, ?_, hspells,
        chooses_choice hsome (plain_of_spells hspells)⟩
      have htree : Reader.choice ((first :: second :: words).map Words.tree).reverse =
          .alternation ((first :: second :: words).map Words.tree) := by
        unfold Reader.choice
        split
        case h_1 h => simpa using congrArg List.length h
        case h_2 => rw [List.reverse_reverse]
      rw [htree, ofTree?]
      change (ofTrees? flags.toFlags ((first :: second :: words).map Words.tree)).bind _ = _
      rw [hbranches]
      rfl

end Spells

end Regex.Expr

namespace Words

-- The word stands for the text, character by character.
def Stands (flags : MatchFlags) (word text : Text) : Prop :=
  List.Forall₂ (fun c d => flags.agrees c d = true) word text

-- The start of the text that the word stands for.
def stretch? (flags : MatchFlags) : (word text : Text) → Option Text
  | [], _ => some []
  | _ :: _, [] => none
  | c :: word, d :: text =>
      if flags.agrees c d then (stretch? flags word text).map (d :: ·) else none

theorem stretch?_eq_some {flags : MatchFlags} {word text part : Text} :
    stretch? flags word text = some part ↔ Stands flags word part ∧ part <+: text := by
  unfold Stands
  fun_induction stretch? flags word text generalizing part with
  | case1 text =>
      rw [List.forall₂_nil_left_iff, Option.some_inj]
      constructor
      · rintro rfl
        exact ⟨rfl, List.nil_prefix⟩
      · rintro ⟨rfl, -⟩
        rfl
  | case2 c word =>
      simp only [reduceCtorEq, List.prefix_nil, false_iff, not_and]
      rintro h rfl
      cases h
  | case3 c word d text hagrees ih =>
      simp only [Option.map_eq_some_iff, ih, List.forall₂_cons_left_iff]
      constructor
      · rintro ⟨part, ⟨hpart, hlead⟩, rfl⟩
        exact ⟨⟨d, part, hagrees, hpart, rfl⟩, List.cons_prefix_cons.mpr ⟨rfl, hlead⟩⟩
      · rintro ⟨⟨e, part, -, hpart, rfl⟩, hlead⟩
        obtain ⟨rfl, hrest⟩ := List.cons_prefix_cons.mp hlead
        exact ⟨part, ⟨hpart, hrest⟩, rfl⟩
  | case4 c word d text hagrees =>
      simp only [reduceCtorEq, List.forall₂_cons_left_iff, false_iff, not_and]
      rintro ⟨e, part, hce, -, rfl⟩ hlead
      obtain ⟨rfl, -⟩ := List.cons_prefix_cons.mp hlead
      exact hagrees hce

-- Where reading the characters of a word ends.
theorem readAll?_agrees (flags : MatchFlags) (word : Text) (place : Place) :
    (place.readAll? (word.map flags.agrees)).map Place.offset =
      (stretch? flags word place.after).map (place.offset + Text.size ·) := by
  induction word generalizing place with
  | nil => rfl
  | cons c word ih =>
      rw [List.map_cons, Place.readAll?, List.foldlM_cons, Place.read?]
      obtain ⟨offset, before, after⟩ := place
      cases after with
      | nil => rfl
      | cons d text =>
          rw [stretch?]
          dsimp only
          split
          case isTrue hagrees =>
            have hrest := ih (Place.past ⟨offset, before, d :: text⟩ d text)
            change ((Place.past ⟨offset, before, d :: text⟩ d text).readAll? _).map _ = _
            rw [hrest, Option.map_map]
            simp only [Place.past, Function.comp_def, Text.size_cons, Nat.add_assoc]
          case isFalse => rfl

-- The words are tried one after the other.
theorem matchAt_pattern {words : List Text} (hne : words ≠ []) {flags : MatchFlags}
    {pattern : Pattern} (hcompile : Pattern.compile (String.ofList (Words.pattern words)) flags =
      .ok pattern) (place : Place) :
    (pattern.matchAt place).map Match.span =
      (words.findSome? (stretch? flags · place.after)).map fun part =>
        ⟨place.offset, place.offset + Text.size part⟩ := by
  obtain ⟨branches, expr, hexpr, hspells, hchooses⟩ := Regex.Expr.ofTree?_choice flags hne
  have hgroup : Pattern.expr? (String.ofList (Words.pattern words)).toList flags = some expr := by
    rw [Pattern.expr?, String.toList_ofList, read?_pattern hne]
    change (Regex.Expr.ofTree? flags.toFlags (.group (.plain []) _)).bind _ = _
    rw [Regex.Expr.ofTree?]
    change ((Regex.Expr.ofTree? flags.toFlags _).bind _).bind _ = _
    rw [hexpr]
    rfl
  rw [Pattern.compile, hgroup] at hcompile
  dsimp only at hcompile
  split at hcompile
  case isTrue => contradiction
  case isFalse =>
    cases hcompile
    have hsearch := Regex.Program.search_ofExpr hchooses.plain place
    rw [hchooses.finds, Regex.Expr.findAny_spells hspells, List.findSome?_map] at hsearch
    have hstop : words.findSome? ((fun tests => (place.readAll? tests).bind
        fun behind => some behind.offset) ∘ (·.map flags.agrees)) =
        (words.findSome? (stretch? flags · place.after)).map (place.offset + Text.size ·) := by
      rw [List.map_findSome?]
      congr 1
      funext word
      change (place.readAll? (word.map flags.agrees)).bind (some ∘ Place.offset) = _
      rw [← Option.map_eq_bind, readAll?_agrees]
      rfl
    rw [hstop] at hsearch
    rw [Pattern.matchAt, Option.map_map]
    have hspan := congrArg (Option.map fun stop => (⟨place.offset, stop⟩ : Span)) hsearch
    rw [Option.map_map, Option.map_map] at hspan
    exact hspan

end Words

end StackLexer
