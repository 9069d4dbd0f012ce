import StackLexer.Proofs.Regex.Meaning

namespace StackLexer

namespace Place

theorem readAll?_single (place : Place) (test : Char → Bool) :
    place.readAll? [test] = place.read? test := by
  rw [readAll?, List.foldlM_cons]
  exact Option.bind_fun_some _

theorem readAll?_append (place : Place) (first second : List (Char → Bool)) :
    place.readAll? (first ++ second) = (place.readAll? first).bind (·.readAll? second) :=
  List.foldlM_append

-- The same place is behind a character, whatever it had to pass.
theorem read?_or {β : Type} (place : Place) (a b : Char → Bool) (next : Place → Option β) :
    (place.read? fun c => a c || b c).bind next =
      ((place.read? a).bind next).or ((place.read? b).bind next) := by
  unfold read?
  cases place.after with
  | nil => rfl
  | cons c rest =>
      by_cases ha : a c = true <;> by_cases hb : b c = true <;> simp [ha, hb]

end Place

namespace Regex.Expr

variable {β : Type} {forks : Bool} {parts branches : List Expr}

section Sequence

theorem findAll_append (first second : List Expr) (next : Place → Option β) :
    findAll (first ++ second) next = findAll first (findAll second next) := by
  induction first with
  | nil => rfl
  | cons part rest ih =>
      funext place
      rw [List.cons_append, findAll, findAll, ih]

theorem findAll_flattenConcat (parts : List Expr) (next : Place → Option β) :
    findAll (flattenConcat parts) next = findAll parts next := by
  fun_induction flattenConcat parts with
  | case1 => rfl
  | case2 inner rest ih =>
      rw [findAll_append, ih]
      rfl
  | case3 part rest _ ih =>
      funext place
      rw [findAll, findAll, ih]

theorem plain_flattenConcat (h : ∀ part ∈ parts, part.Plain forks) :
    ∀ part ∈ flattenConcat parts, part.Plain forks := by
  fun_induction flattenConcat parts with
  | case1 => simp
  | case2 inner rest ih =>
      obtain ⟨hinner, hrest⟩ := List.forall_mem_cons.mp h
      exact List.forall_mem_append.mpr ⟨plain_concat.mp hinner, ih hrest⟩
  | case3 part rest _ ih =>
      obtain ⟨hpart, hrest⟩ := List.forall_mem_cons.mp h
      exact List.forall_mem_cons.mpr ⟨hpart, ih hrest⟩

theorem find_literal_append (first second : Text) (next : Place → Option β) :
    (literal (first ++ second)).find next = (literal first).find ((literal second).find next) := by
  funext place
  rw [find, find, List.map_append, Place.readAll?_append, Option.bind_assoc]
  rfl

-- The pending text is read before the parts.
theorem findAll_joinLiterals (pending : Text) (parts : List Expr) (next : Place → Option β) :
    findAll (joinLiterals pending parts) next = (literal pending).find (findAll parts next) := by
  fun_induction joinLiterals pending parts with
  | case1 pending hempty =>
      obtain rfl := List.isEmpty_iff.mp hempty
      rfl
  | case2 pending => rfl
  | case3 pending text rest ih =>
      rw [ih, find_literal_append]
      rfl
  | case4 pending rest ih => exact ih
  | case5 pending part rest _ _ hempty ih =>
      obtain rfl := List.isEmpty_iff.mp hempty
      funext place
      rw [findAll, ih]
      rfl
  | case6 pending part rest _ _ _ ih =>
      funext place
      rw [findAll]
      congr 1
      funext place
      rw [findAll, ih]
      rfl

theorem plain_joinLiterals {pending : Text} (h : ∀ part ∈ parts, part.Plain forks) :
    ∀ part ∈ joinLiterals pending parts, part.Plain forks := by
  fun_induction joinLiterals pending parts with
  | case1 => simp
  | case2 pending => exact List.forall_mem_singleton.mpr (.literal pending)
  | case3 pending text rest ih | case4 pending rest ih => exact ih (List.forall_mem_cons.mp h).2
  | case5 pending part rest _ _ _ ih =>
      obtain ⟨hpart, hrest⟩ := List.forall_mem_cons.mp h
      exact List.forall_mem_cons.mpr ⟨hpart, ih hrest⟩
  | case6 pending part rest _ _ _ ih =>
      obtain ⟨hpart, hrest⟩ := List.forall_mem_cons.mp h
      exact List.forall_mem_cons.mpr
        ⟨.literal pending, List.forall_mem_cons.mpr ⟨hpart, ih hrest⟩⟩

-- A sequence finds what its parts find one behind the other.
theorem find_sequence (parts : List Expr) (next : Place → Option β) :
    (sequence parts).find next = findAll parts next := by
  rw [← findAll_flattenConcat]
  have hjoin := findAll_joinLiterals [] (flattenConcat parts) next
  change findAll _ next = findAll _ next at hjoin
  rw [← hjoin, sequence]
  split
  case h_1 hparts => rw [hparts]; rfl
  case h_2 hparts => rw [hparts]; rfl
  case h_3 => rfl

theorem plain_sequence (h : ∀ part ∈ parts, part.Plain forks) : (sequence parts).Plain forks := by
  have hjoined := @plain_joinLiterals _ _ [] (plain_flattenConcat h)
  unfold sequence
  split
  case h_1 => exact .empty
  case h_2 part hparts =>
    rw [hparts] at hjoined
    exact List.forall_mem_singleton.mp hjoined
  case h_3 => exact .concat hjoined

end Sequence

section Sets

theorem find_chars {set : CharSet} (hset : set.Proper) (next : Place → Option β) (place : Place) :
    (chars set).find next place = (place.read? set.mem).bind next := by
  unfold chars
  split
  case h_1 c hsingle =>
    rw [funext (CharSet.mem_of_single? hset hsingle), find, List.map_singleton,
      Place.readAll?_single]
  case h_2 => rw [find]

theorem plain_chars {set : CharSet} (hset : set.Proper) : (chars set).Plain forks := by
  unfold chars
  split
  case h_1 => exact .literal _
  case h_2 => exact .set hset

-- The branches read one character, and between them they take those that lie in the ranges.
structure ReadsOne (branches : List Expr) (ranges : List CharRange) : Prop where
  valid : ∀ range ∈ ranges, range.lo.isValidChar
  finds : ∀ {β : Type} (next : Place → Option β) place,
    findAny branches next place = (place.read? (CharSet.ofRanges ranges).mem).bind next

theorem readsOne_nil : ReadsOne [] [] where
  valid := by simp
  finds next place := by
    have hmem : (CharSet.ofRanges []).mem = fun _ => false := by
      funext c
      simp [CharSet.ofRanges, CharSet.merge, CharSet.mem, CharSet.memRanges]
    rw [findAny, hmem, Place.read?]
    split <;> rfl

theorem ReadsOne.cons {ranges added : List CharRange} (h : ReadsOne branches ranges)
    {branch : Expr} (hvalid : ∀ range ∈ added, range.lo.isValidChar)
    (hfinds : ∀ {β : Type} (next : Place → Option β) place,
      branch.find next place = (place.read? (CharSet.ofRanges added).mem).bind next) :
    ReadsOne (branch :: branches) (added ++ ranges) where
  valid := List.forall_mem_append.mpr ⟨hvalid, h.valid⟩
  finds next place := by
    have hmem : (CharSet.ofRanges (added ++ ranges)).mem =
        fun c => (CharSet.ofRanges added).mem c || (CharSet.ofRanges ranges).mem c := by
      funext c
      rw [Bool.eq_iff_iff, Bool.or_eq_true, CharSet.mem_ofRanges, CharSet.mem_ofRanges,
        CharSet.mem_ofRanges, CharSet.holds_append]
    rw [findAny, hfinds, h.finds, hmem, Place.read?_or]

theorem readsOne_of_singleChars? {ranges : List CharRange}
    (h : singleChars? branches = some ranges) : ReadsOne branches ranges := by
  fun_induction singleChars? branches generalizing ranges with
  | case1 =>
      obtain rfl := Option.some.inj h
      exact readsOne_nil
  | case2 c rest ih =>
      obtain ⟨others, hothers, rfl⟩ := Option.map_eq_some_iff.mp h
      have hvalid : ∀ range ∈ [CharRange.mk c.toNat c.toNat], range.lo.isValidChar :=
        List.forall_mem_singleton.mpr c.valid
      refine (ih hothers).cons hvalid fun next place => ?_
      have hmem : (CharSet.ofRanges [⟨c.toNat, c.toNat⟩]).mem = (c == ·) := by
        funext d
        rw [Bool.eq_iff_iff, CharSet.mem_ofRanges, beq_iff_eq, ← Char.toNat_inj]
        simp only [CharSet.Holds, List.mem_singleton, exists_eq_left]
        omega
      rw [hmem, find, List.map_singleton, Place.readAll?_single]
  | case3 => contradiction

theorem readsOne_of_unionOfSets? {ranges : List CharRange}
    (hplain : ∀ branch ∈ branches, branch.Plain forks)
    (h : unionOfSets? branches = some ranges) : ReadsOne branches ranges := by
  fun_induction unionOfSets? branches generalizing ranges with
  | case1 =>
      obtain rfl := Option.some.inj h
      exact readsOne_nil
  | case2 set rest ih =>
      obtain ⟨others, hothers, rfl⟩ := Option.map_eq_some_iff.mp h
      obtain ⟨hset, hrest⟩ := List.forall_mem_cons.mp hplain
      rw [plain_set] at hset
      refine (ih hrest hothers).cons hset.valid fun next place => ?_
      have hmem : (CharSet.ofRanges set.ranges).mem = set.mem := by
        funext d
        rw [Bool.eq_iff_iff, CharSet.mem_ofRanges, CharSet.mem,
          CharSet.memRanges_iff hset.ascending]
      rw [hmem, find]
  | case3 => contradiction

end Sets

section Shared

mutual

theorem eq_of_same {a b : Expr} (h : same a b = true) : a = b := by
  cases a <;> cases b <;> simp only [same, Bool.false_eq_true, Bool.and_eq_true, beq_iff_eq] at h
  case empty.empty => rfl
  case literal.literal | set.set | look.look => rw [h]
  case repeated.repeated =>
    obtain ⟨⟨⟨rfl, rfl⟩, rfl⟩, h⟩ := h
    rw [eq_of_same h]
  case group.group =>
    obtain ⟨rfl, h⟩ := h
    rw [eq_of_same h]
  case concat.concat | alternation.alternation => rw [eq_of_sameAll h]

theorem eq_of_sameAll {as bs : List Expr} (h : sameAll as bs = true) : as = bs := by
  cases as <;> cases bs <;> simp only [sameAll, Bool.false_eq_true, Bool.and_eq_true] at h
  case nil.nil => rfl
  case cons.cons => rw [eq_of_same h.1, eq_of_sameAll h.2]

end

theorem take_eq_of_le_sharedLength {as bs : List Expr} {n : Nat} (h : n ≤ sharedLength as bs) :
    as.take n = bs.take n := by
  fun_induction sharedLength as bs generalizing n with
  | case1 a as b bs hsame ih =>
      cases n with
      | zero => rfl
      | succ n => rw [eq_of_same hsame, List.take_succ_cons, List.take_succ_cons, ih (by omega)]
  | case2 | case3 =>
      obtain rfl := Nat.le_zero.mp h
      rfl

theorem foldl_min_le {α : Type} (f : α → Nat) (xs : List α) (n : Nat) :
    xs.foldl (fun n x => Nat.min n (f x)) n ≤ n ∧
      ∀ x ∈ xs, xs.foldl (fun n x => Nat.min n (f x)) n ≤ f x := by
  induction xs generalizing n with
  | nil => simp
  | cons x xs ih =>
      obtain ⟨hle, hmem⟩ := ih (Nat.min n (f x))
      have hmin : Nat.min n (f x) ≤ n ∧ Nat.min n (f x) ≤ f x :=
        ⟨Nat.min_le_left .., Nat.min_le_right ..⟩
      exact ⟨hle.trans hmin.1, List.forall_mem_cons.mpr ⟨hle.trans hmin.2, hmem⟩⟩

theorem eq_map_concat_of_mapM {lists : List (List Expr)} (h : branches.mapM parts? = some lists) :
    branches = lists.map .concat := by
  induction branches generalizing lists with
  | nil =>
      obtain rfl := Option.some.inj h
      rfl
  | cons branch branches ih =>
      rw [List.mapM_cons] at h
      obtain ⟨parts, hparts, h⟩ := Option.bind_eq_some_iff.mp h
      obtain ⟨others, hothers, h⟩ := Option.bind_eq_some_iff.mp h
      obtain rfl := Option.some.inj h
      cases branch <;> cases hparts
      rw [List.map_cons, ih hothers]

theorem eq_of_splitShared? {shared : List Expr} {rests : List (List Expr)}
    (h : splitShared? branches = some (shared, rests)) :
    branches = rests.map fun rest => .concat (shared ++ rest) := by
  obtain ⟨lists, hlists, h⟩ := Option.bind_eq_some_iff.mp h
  rw [eq_map_concat_of_mapM hlists]
  cases lists with
  | nil => contradiction
  | cons first others =>
      dsimp only at h
      split at h
      case isTrue => contradiction
      case isFalse =>
        obtain ⟨rfl, rfl⟩ := Prod.mk.inj (Option.some.inj h)
        have hshared := (foldl_min_le (sharedLength first) others first.length).2
        generalize others.foldl _ first.length = length at hshared
        rw [List.map_map]
        refine List.map_congr_left (List.forall_mem_cons.mpr ⟨?_, fun parts hmem => ?_⟩)
        · simp
        · rw [Function.comp, take_eq_of_le_sharedLength (hshared parts hmem), List.take_append_drop]

end Shared

section Choice

-- With one way to go at most, what comes behind is asked once.
theorem findAll_eq_bind_of {next : Place → Option β}
    (h : ∀ part ∈ parts, ∀ {γ : Type} (next : Place → Option γ) place,
      part.find next place = (part.find some place).bind next) (place : Place) :
    findAll parts next place = (findAll parts some place).bind next := by
  induction parts generalizing place with
  | nil => rfl
  | cons part rest ih =>
      obtain ⟨hpart, hrest⟩ := List.forall_mem_cons.mp h
      rw [findAll, findAll, hpart, hpart (findAll rest some), Option.bind_assoc]
      exact congrArg _ (funext (ih hrest))

theorem find_eq_bind {expr : Expr} (h : expr.Plain false) (next : Place → Option β)
    (place : Place) : expr.find next place = (expr.find some place).bind next := by
  induction h generalizing β place with
  | empty => rfl
  | literal text | set =>
      rw [find, find]
      exact congrArg (·.bind next) (Option.bind_fun_some _).symm
  | look assertion =>
      rw [find, find]
      split <;> rfl
  | group _ ih => exact ih next place
  | concat _ ih => exact findAll_eq_bind_of ih place
  | alternation => contradiction

theorem findAll_eq_bind (h : ∀ part ∈ parts, part.Plain false) (next : Place → Option β)
    (place : Place) : findAll parts next place = (findAll parts some place).bind next :=
  findAll_eq_bind_of (fun part hmem _ next place => find_eq_bind (h part hmem) next place) place

-- A start that all branches share can be tried once.
theorem findAny_shared {shared : List Expr} (hshared : ∀ part ∈ shared, part.Plain false)
    (rests : List (List Expr)) (next : Place → Option β) (place : Place) :
    findAny (rests.map fun rest => .concat (shared ++ rest)) next place =
      findAll shared (findAny (rests.map sequence) next) place := by
  induction rests with
  | nil =>
      rw [findAll_eq_bind hshared]
      exact (Option.bind_fun_none _).symm
  | cons rest rests ih =>
      have hfirst : (concat (shared ++ rest)).find next place =
          (findAll shared some place).bind (findAll rest next) := by
        rw [find, findAll_append, findAll_eq_bind hshared]
      rw [List.map_cons, findAny, ih, hfirst, findAll_eq_bind hshared (findAny _ next),
        findAll_eq_bind hshared (findAny _ next)]
      cases findAll shared some place with
      | none => rfl
      | some behind =>
          change (findAll rest next behind).or (findAny (rests.map sequence) next behind) =
            ((sequence rest).find next behind).or (findAny (rests.map sequence) next behind)
          rw [find_sequence]

theorem plain_mono {expr : Expr} (h : expr.Plain false) : expr.Plain forks := by
  induction h with
  | empty => exact .empty
  | literal text => exact .literal text
  | set hproper => exact .set hproper
  | look assertion => exact .look assertion
  | group _ ih => exact .group ih
  | concat _ ih => exact .concat ih
  | alternation => contradiction

theorem flattenAlternation_eq (h : ∀ branch ∈ branches, branch.Plain false) :
    flattenAlternation branches = branches := by
  fun_induction flattenAlternation branches with
  | case1 => rfl
  | case2 inner rest =>
      cases (List.forall_mem_cons.mp h).1
      contradiction
  | case3 branch rest _ ih => rw [ih (List.forall_mem_cons.mp h).2]

-- The expression stands for the branches, tried one after the other.
structure Chooses (branches : List Expr) (expr : Expr) : Prop where
  plain : expr.Plain true
  finds : ∀ {β : Type} (next : Place → Option β) place,
    expr.find next place = findAny branches next place

theorem chooses_single {branch : Expr} (h : branch.Plain false) : Chooses [branch] branch where
  plain := plain_mono h
  finds next place := by rw [findAny, findAny, Option.or_none]

theorem chooses_alternation (hne : branches ≠ []) (h : ∀ branch ∈ branches, branch.Plain false) :
    Chooses branches (.alternation branches) where
  plain := .alternation rfl hne fun branch hmem => plain_mono (h branch hmem)
  finds next place := by rw [find]

theorem chooses_choiceWithin (fuel : Nat) (hne : branches ≠ [])
    (h : ∀ branch ∈ branches, branch.Plain false) :
    Chooses branches (choiceWithin fuel branches) := by
  induction fuel generalizing branches with
  | zero => exact chooses_alternation hne h
  | succ fuel ih =>
      rw [choiceWithin, flattenAlternation_eq h]
      split
      case h_1 => contradiction
      case h_2 branch => exact chooses_single (List.forall_mem_singleton.mp h)
      case h_3 =>
        split
        case h_1 ranges hranges =>
          have hreads : ReadsOne branches ranges := by
            rcases Option.or_eq_some_iff.mp hranges with hranges | ⟨-, hranges⟩
            · exact readsOne_of_singleChars? hranges
            · exact readsOne_of_unionOfSets? h hranges
          have hproper := CharSet.ofRanges_proper hreads.valid
          exact ⟨plain_chars hproper, fun next place => by
            rw [find_chars hproper, hreads.finds]⟩
        case h_2 =>
          split
          case h_2 => exact chooses_alternation hne h
          case h_1 shared rests hsplit =>
            obtain rfl := eq_of_splitShared? hsplit
            have hparts : ∀ rest ∈ rests, ∀ part ∈ shared ++ rest, part.Plain false := by
              exact fun rest hmem => plain_concat.mp (h _ (List.mem_map_of_mem hmem))
            obtain ⟨rest, hrest⟩ := List.exists_mem_of_ne_nil rests (by simpa using hne)
            have hshared := (List.forall_mem_append.mp (hparts rest hrest)).1
            have hrests : ∀ branch ∈ rests.map sequence, branch.Plain false := by
              rw [List.forall_mem_map]
              exact fun rest hmem => plain_sequence (List.forall_mem_append.mp (hparts rest hmem)).2
            obtain ⟨hplain, hfinds⟩ := ih (by simpa using hne) hrests
            refine ⟨plain_sequence (List.forall_mem_append.mpr ⟨fun part hmem => ?_, ?_⟩), ?_⟩
            · exact plain_mono (hshared part hmem)
            · exact List.forall_mem_singleton.mpr hplain
            · intro β next place
              rw [find_sequence, findAll_append, findAny_shared hshared]
              congr 1
              funext place
              exact hfinds next place

-- A choice finds what its branches find, tried one after the other. Each of them has one way to go
-- at most, so it makes no difference that a start they share is tried once only.
theorem chooses_choice (hne : branches ≠ []) (h : ∀ branch ∈ branches, branch.Plain false) :
    Chooses branches (choice branches) := chooses_choiceWithin _ hne h

end Choice

end Regex.Expr

end StackLexer
