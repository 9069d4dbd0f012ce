import StackLexer.Proofs.Regex.Label
import StackLexer.Proofs.Regex.Search

namespace StackLexer

namespace CharSet

theorem utf8Size_mono {c d : Char} (h : c.val ≤ d.val) : c.utf8Size ≤ d.utf8Size := by
  unfold Char.utf8Size
  grind

theorem utf8Size_ofNat_le {n : Nat} {c : Char} (h : n ≤ c.toNat) :
    (Char.ofNat n).utf8Size ≤ c.utf8Size := by
  by_cases hvalid : n.isValidChar
  · have hval : (Char.ofNat n).val.toNat = n := by
      rw [Char.ofNat, dif_pos hvalid]
      rfl
    apply utf8Size_mono
    rw [UInt32.le_iff_toNat_le, hval]
    exact h
  · have hzero : Char.ofNat n = '\x00' := by
      rw [Char.ofNat, dif_neg hvalid]
      rfl
    rw [hzero]
    exact Char.utf8Size_pos c

-- No member comes before the first range.
theorem minSize?_le {set : CharSet} {k : Nat} (hsize : set.minSize? = some k) {c : Char}
    (hmem : set.mem c = true) : k ≤ c.utf8Size := by
  obtain ⟨range, hrange, rfl⟩ := Option.map_eq_some_iff.mp hsize
  obtain ⟨rest, hrest⟩ := List.head?_eq_some_iff.mp hrange
  apply utf8Size_ofNat_le
  rw [mem, hrest, memRanges] at hmem
  split at hmem
  · contradiction
  · omega

end CharSet

namespace Regex

namespace Expr

theorem insts_bounded (min max : Nat) (greedy : Bool) (body : Expr) (here : Nat) :
    (repeated min (some max) greedy body).insts here =
      ((List.range min).flatMap fun i => body.insts (here + i * body.size)) ++
        (List.range (max - min)).flatMap fun i =>
          Lower.optional greedy (here + min * body.size + (max - min) * (body.size + 1))
            (fun pc => body.insts pc) (here + min * body.size + i * (body.size + 1)) := by
  rw [insts]
  rfl

mutual

theorem insts_length (expr : Expr) (here : Nat) : (expr.insts here).length = expr.size := by
  cases expr with
  | empty => rfl
  | literal text => exact List.length_map _
  | set chars => rfl
  | look assertion => rfl
  | repeated min max greedy body =>
      have hbody := insts_length body
      cases max with
      | none =>
          cases min with
          | zero =>
              rw [insts, size]
              split <;> simp only [List.length_append, List.length_cons, List.length_nil, hbody]
          | succ min =>
              rw [insts, size, List.length_append, Lower.length_copies hbody, List.length_singleton]
      | some max =>
          rw [insts_bounded, size, List.length_append, Lower.length_copies hbody,
            Lower.length_copies (Lower.length_optional hbody _ _)]
  | group index body =>
      rw [insts, size, List.length_append, List.length_cons, insts_length body,
        List.length_singleton]
  | concat parts => exact instsAll_length parts here
  | alternation branches => exact instsBranches_length branches here _

theorem instsAll_length (parts : List Expr) (here : Nat) :
    (instsAll here parts).length = sizeSum parts := by
  cases parts with
  | nil => rfl
  | cons part rest =>
      rw [instsAll, sizeSum, List.length_append, insts_length part, instsAll_length rest]

theorem instsBranches_length (branches : List Expr) (here exit : Nat) :
    (instsBranches here exit branches).length = sizeBranches branches := by
  cases branches with
  | nil => rfl
  | cons branch rest =>
      cases rest with
      | nil => exact insts_length branch here
      | cons next rest =>
          rw [instsBranches, sizeBranches, List.length_append, List.length_cons, List.length_cons,
            insts_length branch, instsBranches_length (next :: rest)]
          · omega
          · simp
          · simp

end

theorem chars_lower (text : Text) (here : Nat) : Lower here (text.map .char) (Text.size text) := by
  induction text generalizing here with
  | nil => exact .nil here
  | cons c text ih =>
      rw [Text.size_cons]
      have hchar : Lower here [.char c] c.utf8Size := .single fun label hlabel => hlabel
      exact hchar.append (ih (here + 1))

mutual

-- The code of an expression can be labelled as its least size says.
theorem insts_lower {expr : Expr} {k : Nat} (hsize : expr.minSize? = some k) (here : Nat) :
    Lower here (expr.insts here) k := by
  cases expr with
  | empty =>
      obtain rfl := Option.some.inj hsize
      exact .nil here
  | literal text =>
      obtain rfl := Option.some.inj hsize
      exact chars_lower text here
  | set chars =>
      refine .single fun label hlabel c hmem => ?_
      have hle := CharSet.minSize?_le hsize hmem
      omega
  | look assertion =>
      obtain rfl := Option.some.inj hsize
      exact .single fun label hlabel => hlabel
  | repeated min max greedy body =>
      obtain ⟨least, hleast, rfl⟩ := Option.map_eq_some_iff.mp hsize
      have hbody := insts_lower hleast
      have hlength := insts_length body
      have hcopies := Lower.copies hlength hbody here min
      cases max with
      | none =>
          cases min with
          | zero =>
              rw [insts, Nat.mul_zero, ← hlength (here + 1)]
              split
              · exact .loop greedy (fun label hhere _ _ => hhere) (hbody (here + 1))
              · exact .loop greedy
                  (fun label _ hbody hexit => (Inst.branch_fits greedy).mpr ⟨hbody, hexit⟩)
                  (hbody (here + 1))
          | succ min =>
              have hcopies := Lower.copies hlength hbody here min
              have hlast := (hbody (here + min * body.size)).again greedy
              rw [hlength] at hlast
              rw [insts, List.range_succ, List.flatMap_append, List.flatMap_singleton,
                List.append_assoc, Nat.mul_succ]
              refine hcopies.append ?_
              rw [Lower.length_copies hlength]
              exact hlast
      | some max =>
          rw [insts_bounded, ← Nat.add_zero (least * min)]
          refine hcopies.append ?_
          rw [Lower.length_copies hlength]
          exact .options hlength hbody greedy rfl
  | group index body =>
      have hbody := insts_lower (show body.minSize? = some k from hsize) (here + 1)
      have hopens : Lower here [.opens index] 0 := .single fun label hlabel => hlabel
      have hcloses : ∀ pc, Lower pc [.closes index] 0 :=
        fun pc => .single fun label hlabel => hlabel
      have hgroup := (hopens.append hbody).append (hcloses _)
      rwa [Nat.zero_add, Nat.add_zero] at hgroup
  | concat parts => exact instsAll_lower hsize here
  | alternation branches => exact instsBranches_lower hsize rfl

theorem instsAll_lower {parts : List Expr} {k : Nat} (hsize : minSizeSum? parts = some k)
    (here : Nat) : Lower here (instsAll here parts) k := by
  cases parts with
  | nil =>
      obtain rfl := Option.some.inj hsize
      exact .nil here
  | cons part rest =>
      obtain ⟨first, hfirst, hsize⟩ := Option.bind_eq_some_iff.mp hsize
      obtain ⟨others, hothers, hsize⟩ := Option.bind_eq_some_iff.mp hsize
      obtain rfl := Option.some.inj hsize
      have hrest := instsAll_lower hothers (here + part.size)
      rw [← insts_length part here] at hrest
      rw [instsAll, ← insts_length part here]
      exact (insts_lower hfirst here).append hrest

theorem instsBranches_lower {branches : List Expr} {k : Nat}
    (hsize : minSizeLeast? branches = some k) {here exit : Nat}
    (hexit : here + sizeBranches branches = exit) :
    Lower here (instsBranches here exit branches) k := by
  cases branches with
  | nil => contradiction
  | cons branch rest =>
      cases rest with
      | nil => exact insts_lower (show branch.minSize? = some k from hsize) here
      | cons next rest =>
          obtain ⟨first, hfirst, hsize⟩ := Option.bind_eq_some_iff.mp hsize
          obtain ⟨others, hothers, hsize⟩ := Option.bind_eq_some_iff.mp hsize
          obtain rfl := Option.some.inj hsize
          change here + (branch.size + 2 + sizeBranches (next :: rest)) = exit at hexit
          have hlength := insts_length branch (here + 1)
          have hrest :=
            instsBranches_lower hothers (show here + branch.size + 2 + _ = exit by omega)
          have heither := (insts_lower hfirst (here + 1)).either (hlength ▸ hrest)
          rw [hlength, instsBranches_length] at heither
          have hend : here + branch.size + 2 + sizeBranches (next :: rest) = exit := by omega
          rw [hend] at heither
          exact heither

end

mutual

-- A part of the expression, wherever it stands, can never match: a set without members, or a
-- choice without branches.
def hasVoid : Expr → Bool
  | .set chars => chars.isEmpty
  | .repeated _ _ _ body => body.hasVoid
  | .group _ body => body.hasVoid
  | .concat parts => anyVoid parts
  | .alternation branches => branches.isEmpty || anyVoid branches
  | _ => false

def anyVoid : List Expr → Bool
  | [] => false
  | expr :: rest => expr.hasVoid || anyVoid rest

end

mutual

-- Such a part is all that keeps an expression from having a least size.
theorem minSize?_eq_none (expr : Expr) : expr.minSize? = none ↔ expr.hasVoid = true := by
  cases expr with
  | empty => simp [minSize?, hasVoid]
  | literal text => simp [minSize?, hasVoid]
  | set chars => simp [minSize?, hasVoid, CharSet.minSize?, CharSet.isEmpty]
  | look assertion => simp [minSize?, hasVoid]
  | repeated min max greedy body => simp [minSize?, hasVoid, minSize?_eq_none body]
  | group index body => simp [minSize?, hasVoid, minSize?_eq_none body]
  | concat parts => exact minSizeSum?_eq_none parts
  | alternation branches =>
      rw [minSize?, hasVoid, minSizeLeast?_eq_none branches, Bool.or_eq_true]

theorem minSizeSum?_eq_none (parts : List Expr) :
    minSizeSum? parts = none ↔ anyVoid parts = true := by
  cases parts with
  | nil => simp [minSizeSum?, anyVoid]
  | cons part rest =>
      rw [anyVoid, Bool.or_eq_true, ← minSize?_eq_none part, ← minSizeSum?_eq_none rest,
        minSizeSum?]
      cases part.minSize? <;> cases minSizeSum? rest <;> simp

theorem minSizeLeast?_eq_none (branches : List Expr) :
    minSizeLeast? branches = none ↔ branches.isEmpty = true ∨ anyVoid branches = true := by
  cases branches with
  | nil => simp [minSizeLeast?]
  | cons branch rest =>
      have hbranch := minSize?_eq_none branch
      have hrest := minSizeLeast?_eq_none rest
      rw [anyVoid, Bool.or_eq_true, ← hbranch]
      cases rest with
      | nil => simp [minSizeLeast?, anyVoid]
      | cons next rest =>
          simp only [List.isEmpty_cons, Bool.false_eq_true, false_or] at hrest ⊢
          rw [← hrest]
          change (do return min (← branch.minSize?) (← minSizeLeast? (next :: rest))) = none ↔ _
          cases branch.minSize? <;> cases minSizeLeast? (next :: rest) <;> simp

end

end Expr

namespace Program

-- A match takes up at least as much text as the expression of the program says.
theorem search_minSize {expr : Expr} {k : Nat} (hsize : expr.minSize? = some k) {place : Place}
    {hit : Hit} (hsearch : (ofExpr expr).search place = some hit) :
    place.offset + k ≤ hit.stop := by
  obtain ⟨label, hstart, hstop, hfit⟩ := Expr.insts_lower hsize 0 0
  have hcode : Fit label 0 (expr.insts 0 ++ [.accept]) :=
    fit_append.mpr ⟨hfit label fun _ _ _ => rfl, hstop, trivial⟩
  have hfits : ∀ {pc : Nat} {inst : Inst}, (ofExpr expr).code[pc]? = some inst →
      inst.Fits label pc := by
    intro pc inst hinst
    rw [ofExpr, List.getElem?_toArray] at hinst
    simpa using hcode.getElem? hinst
  -- what a thread has read and what it still has to read is never less than the least size
  have hstable : (ofExpr expr).Stable fun place' thread =>
      place.offset + k ≤ place'.offset + label thread.pc := by
    intro place' thread next thread' hmove hinv
    cases hmove with
    | @char pc _ c rest hpc hc =>
        have hle : label pc ≤ label (pc + 1) + c.utf8Size := hfits hpc
        simp only [Place.past] at hinv ⊢
        omega
    | @set pc _ chars c rest hpc hmem hc =>
        have hle : label pc ≤ label (pc + 1) + c.utf8Size := hfits hpc c hmem
        simp only [Place.past] at hinv ⊢
        omega
    | look hpc | opens hpc | closes hpc =>
        exact Nat.le_trans hinv (Nat.add_le_add_left (hfits hpc) _)
    | first hpc => exact Nat.le_trans hinv (Nat.add_le_add_left (hfits hpc).1 _)
    | second hpc => exact Nat.le_trans hinv (Nat.add_le_add_left (hfits hpc).2 _)
    | jump hpc => exact Nat.le_trans hinv (Nat.add_le_add_left (hfits hpc) _)
  have hfirst : place.offset + k ≤ place.offset + label 0 := by omega
  obtain ⟨place', pc, hinv, haccept, hend⟩ := search_keeps hstable place hfirst hit hsearch
  have hzero : label pc = 0 := hfits haccept
  simp only [hzero] at hinv
  omega

end Program

end Regex

end StackLexer
