import Mathlib.Data.List.Pairwise
import StackLexer.Unicode.CharSet

namespace StackLexer.CharSet

-- The code point lies in one of the ranges.
def Holds (ranges : List CharRange) (n : Nat) : Prop :=
  ∃ range ∈ ranges, range.lo ≤ n ∧ n ≤ range.hi

theorem holds_cons {range : CharRange} {ranges : List CharRange} {n : Nat} :
    Holds (range :: ranges) n ↔ range.lo ≤ n ∧ n ≤ range.hi ∨ Holds ranges n := by
  simp [Holds]

theorem holds_append {first second : List CharRange} {n : Nat} :
    Holds (first ++ second) n ↔ Holds first n ∨ Holds second n := by
  simp [Holds, or_and_right, exists_or]

-- The ranges come in the order of their first code points, which are characters.
structure Proper (set : CharSet) : Prop where
  ascending : set.ranges.Pairwise fun range later => range.lo ≤ later.lo
  valid : ∀ range ∈ set.ranges, range.lo.isValidChar

theorem memRanges_iff {ranges : List CharRange} {n : Nat}
    (h : ranges.Pairwise fun range later => range.lo ≤ later.lo) :
    memRanges n ranges = true ↔ Holds ranges n := by
  induction ranges with
  | nil => simp [memRanges, Holds]
  | cons range ranges ih =>
      obtain ⟨hfirst, hrest⟩ := List.pairwise_cons.mp h
      rw [memRanges, holds_cons]
      by_cases hbefore : n < range.lo
      · rw [if_pos hbefore]
        refine iff_of_false (by simp) ?_
        rintro (hin | ⟨later, hmem, hin⟩)
        · omega
        · have hle := hfirst later hmem
          omega
      · rw [if_neg hbefore]
        by_cases hin : n ≤ range.hi
        · rw [if_pos hin]
          exact iff_of_true rfl (.inl ⟨Nat.le_of_not_lt hbefore, hin⟩)
        · rw [if_neg hin, ih hrest]
          simp [hin]

-- Ranges are joined where they touch, so nothing comes in between them and nothing is lost.
theorem holds_mergeFrom {current : CharRange} {ranges : List CharRange} {n : Nat}
    (h : (current :: ranges).Pairwise fun range later => range.lo ≤ later.lo) :
    Holds (mergeFrom current ranges) n ↔ Holds (current :: ranges) n := by
  induction ranges generalizing current with
  | nil => exact Iff.rfl
  | cons range ranges ih =>
      obtain ⟨hcurrent, hrest⟩ := List.pairwise_cons.mp h
      obtain ⟨hrange, hranges⟩ := List.pairwise_cons.mp hrest
      have hle : current.lo ≤ range.lo := hcurrent range List.mem_cons_self
      rw [mergeFrom]
      split
      case isTrue htouch =>
        have hjoined : (⟨current.lo, max current.hi range.hi⟩ :: ranges).Pairwise
            fun range later => range.lo ≤ later.lo :=
          List.pairwise_cons.mpr
            ⟨fun later hmem => Nat.le_trans hle (hrange later hmem), hranges⟩
        rw [ih hjoined, holds_cons, holds_cons, holds_cons, ← or_assoc]
        apply or_congr_left
        dsimp only
        omega
      case isFalse => rw [holds_cons, ih hrest, @holds_cons current]

-- No range of the result begins where none did before.
theorem exists_lo_of_mergeFrom {current : CharRange} {ranges : List CharRange} :
    ∀ range ∈ mergeFrom current ranges, ∃ old ∈ current :: ranges, range.lo = old.lo := by
  induction ranges generalizing current with
  | nil => simp [mergeFrom]
  | cons next ranges ih =>
      rw [mergeFrom]
      intro range hmem
      split at hmem
      case isTrue =>
        obtain ⟨old, hold, hlo⟩ := ih range hmem
        rcases List.mem_cons.mp hold with rfl | hold
        · exact ⟨current, List.mem_cons_self, hlo⟩
        · exact ⟨old, by simp [hold], hlo⟩
      case isFalse =>
        rcases List.mem_cons.mp hmem with rfl | hmem
        · exact ⟨range, List.mem_cons_self, rfl⟩
        · obtain ⟨old, hold, hlo⟩ := ih range hmem
          exact ⟨old, List.mem_cons_of_mem _ hold, hlo⟩

theorem mergeFrom_ascending {current : CharRange} {ranges : List CharRange}
    (h : (current :: ranges).Pairwise fun range later => range.lo ≤ later.lo) :
    (mergeFrom current ranges).Pairwise fun range later => range.lo ≤ later.lo := by
  induction ranges generalizing current with
  | nil => exact h
  | cons range ranges ih =>
      obtain ⟨hcurrent, hrest⟩ := List.pairwise_cons.mp h
      obtain ⟨hrange, hranges⟩ := List.pairwise_cons.mp hrest
      rw [mergeFrom]
      split
      case isTrue =>
        apply ih
        exact List.pairwise_cons.mpr
          ⟨fun later hmem => hcurrent later (List.mem_cons_of_mem _ hmem), hranges⟩
      case isFalse =>
        refine List.pairwise_cons.mpr ⟨fun later hmem => ?_, ih hrest⟩
        obtain ⟨old, hold, hlo⟩ := exists_lo_of_mergeFrom later hmem
        rw [hlo]
        exact hcurrent old hold

section OfRanges

variable {ranges : List CharRange}

theorem sorted_ascending (ranges : List CharRange) :
    (ranges.mergeSort fun a b => a.lo ≤ b.lo).Pairwise fun range later => range.lo ≤ later.lo := by
  have hsorted := @List.pairwise_mergeSort CharRange (fun a b => decide (a.lo ≤ b.lo))
    (by simpa using fun _ _ _ => Nat.le_trans) (by simpa using fun _ _ => Nat.le_total _ _) ranges
  simpa using hsorted

theorem ofRanges_ascending (ranges : List CharRange) :
    (ofRanges ranges).ranges.Pairwise fun range later => range.lo ≤ later.lo := by
  have hsorted := sorted_ascending (ranges.filter fun range => range.lo ≤ range.hi)
  rw [ofRanges]
  generalize List.mergeSort _ _ = sorted at hsorted ⊢
  cases sorted with
  | nil => exact .nil
  | cons first rest => exact mergeFrom_ascending hsorted

-- A set has the members of the ranges that it is put together from, in whatever order they are
-- given and however they overlap.
theorem mem_ofRanges {c : Char} : (ofRanges ranges).mem c = true ↔ Holds ranges c.toNat := by
  have hkept : Holds (ranges.filter fun range => range.lo ≤ range.hi) c.toNat ↔
      Holds ranges c.toNat := by
    simp only [Holds, List.mem_filter, decide_eq_true_iff]
    constructor
    · rintro ⟨range, ⟨hmem, -⟩, hin⟩
      exact ⟨range, hmem, hin⟩
    · rintro ⟨range, hmem, hin⟩
      exact ⟨range, ⟨hmem, Nat.le_trans hin.1 hin.2⟩, hin⟩
  have hsorted := sorted_ascending (ranges.filter fun range => range.lo ≤ range.hi)
  have hsame : Holds ((ranges.filter fun range => range.lo ≤ range.hi).mergeSort
      fun a b => a.lo ≤ b.lo) c.toNat ↔ Holds ranges c.toNat := by
    rw [← hkept]
    simp only [Holds, List.mem_mergeSort]
  rw [mem, memRanges_iff (ofRanges_ascending ranges), ← hsame, ofRanges]
  generalize List.mergeSort _ _ = sorted at hsorted ⊢
  cases sorted with
  | nil => exact Iff.rfl
  | cons first rest => exact holds_mergeFrom hsorted

theorem ofRanges_proper (hvalid : ∀ range ∈ ranges, range.lo.isValidChar) :
    (ofRanges ranges).Proper where
  ascending := ofRanges_ascending ranges
  valid range hmem := by
    have hsorted : ∀ old ∈ (ranges.filter fun range => range.lo ≤ range.hi).mergeSort
        fun a b => a.lo ≤ b.lo, old.lo.isValidChar := by
      intro old hold
      exact hvalid old (List.mem_filter.mp (List.mem_mergeSort.mp hold)).1
    rw [ofRanges] at hmem
    generalize List.mergeSort _ _ = sorted at hmem hsorted
    cases sorted with
    | nil => contradiction
    | cons first rest =>
        obtain ⟨old, hold, hlo⟩ := exists_lo_of_mergeFrom range hmem
        rw [hlo]
        exact hsorted old hold

end OfRanges

theorem toNat_ofNat {n : Nat} (h : n.isValidChar) : (Char.ofNat n).toNat = n := by
  rw [Char.ofNat, dif_pos h]
  rfl

-- A set that has one member only.
theorem mem_of_single? {set : CharSet} (hset : set.Proper) {c : Char} (h : set.single? = some c)
    (d : Char) : set.mem d = (c == d) := by
  obtain ⟨ranges⟩ := set
  unfold single? at h
  split at h
  case h_2 => contradiction
  case h_1 range hranges =>
    obtain rfl : ranges = [range] := hranges
    split at h
    case isFalse => contradiction
    case isTrue heq =>
      obtain rfl := Option.some.inj h
      have hlo := toNat_ofNat (hset.valid range List.mem_cons_self)
      rw [Bool.eq_iff_iff, mem, memRanges_iff hset.ascending, beq_iff_eq, ← Char.toNat_inj, hlo]
      simp only [Holds, List.mem_singleton, exists_eq_left, ← heq]
      omega

end StackLexer.CharSet
