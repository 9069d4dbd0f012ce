import Mathlib.Data.List.Pairwise
import StackLexer.Unicode.Folding

namespace StackLexer

namespace FoldRule

-- The rule pairs the code points, in one order or the other.
def joins (rule : FoldRule) (a b : Nat) : Bool :=
  (a + rule.shift == b && rule.covers a) || (b + rule.shift == a && rule.covers b)

-- Both sides of the rule as bits, with all that lies between their ends.
def mask (rule : FoldRule) : Nat :=
  let side := Nat.pow 2 (rule.count * rule.stride) - 1
  side <<< rule.first ||| side <<< (rule.first + rule.shift)

-- Wherever the second rule goes on from a pair of the first one, some rule closes the circle.
def closes (first second : FoldRule) : Bool :=
  first.pairs.all fun (low, high) =>
    (second.partners low).all (fun c => high == c || foldRules.any (·.joins high c)) &&
      (second.partners high).all fun c => low == c || foldRules.any (·.joins low c)

-- The rule with fewer pairs is gone through.
def fits (first second : FoldRule) : Bool :=
  Nat.land first.mask second.mask == 0 ||
    if first.count ≤ second.count then first.closes second else second.closes first

def maskAll (rules : List FoldRule) : Nat := rules.foldr (fun rule rest => rule.mask ||| rest) 0

-- The rules fit together. Most of them do not meet any other, which is seen at one go.
def areClosed : List FoldRule → Bool
  | [] => true
  | rule :: rest =>
      (Nat.land rule.mask (maskAll rest) == 0 || rest.all rule.fits) && areClosed rest

-- Nothing is on both sides of the rule, or else the rule fits itself.
def isClosed (rule : FoldRule) : Bool :=
  rule.shift % rule.stride != 0 || Nat.ble (rule.count * rule.stride) rule.shift ||
    rule.closes rule

-- The sides of the rule lie on one side of the surrogates.
def isValid (rule : FoldRule) : Bool :=
  Nat.ble (rule.first + rule.count * rule.stride + rule.shift) 0xd800 ||
    Nat.ble 0xe000 rule.first &&
      Nat.ble (rule.first + rule.count * rule.stride + rule.shift) 0x110000

theorem joins_comm (rule : FoldRule) (a b : Nat) : rule.joins a b = rule.joins b a :=
  Bool.or_comm ..

theorem mem_partners {rule : FoldRule} {a b : Nat} :
    b ∈ rule.partners a ↔ rule.joins a b = true := by
  simp only [partners, joins, List.mem_append, List.mem_ite_nil_right, List.mem_singleton,
    Bool.or_eq_true, Bool.and_eq_true, decide_eq_true_iff, beq_iff_eq]
  constructor
  · rintro (⟨hcovers, rfl⟩ | ⟨⟨hle, hcovers⟩, rfl⟩)
    · exact .inl ⟨rfl, hcovers⟩
    · exact .inr ⟨Nat.sub_add_cancel hle, hcovers⟩
  · rintro (⟨rfl, hcovers⟩ | ⟨rfl, hcovers⟩)
    · exact .inl ⟨hcovers, rfl⟩
    · rw [Nat.add_sub_cancel]
      exact .inr ⟨⟨Nat.le_add_left .., hcovers⟩, rfl⟩

theorem covers_iff {rule : FoldRule} {n : Nat} :
    rule.covers n = true ↔ (rule.first ≤ n ∧ n < rule.first + rule.count * rule.stride) ∧
      (n - rule.first) % rule.stride = 0 := by
  simp only [covers, Bool.and_eq_true, decide_eq_true_iff, beq_iff_eq]

theorem mem_pairs {rule : FoldRule} {n : Nat} (h : rule.covers n = true) :
    (n, n + rule.shift) ∈ rule.pairs := by
  obtain ⟨⟨hle, hlt⟩, hmod⟩ := covers_iff.mp h
  refine List.mem_map.mpr ⟨(n - rule.first) / rule.stride, List.mem_range.mpr ?_, ?_⟩
  · exact Nat.div_lt_of_lt_mul (by rw [Nat.mul_comm]; omega)
  · have hn : rule.first + (n - rule.first) / rule.stride * rule.stride = n := by
      rw [Nat.div_mul_cancel (Nat.dvd_of_mod_eq_zero hmod), Nat.add_sub_cancel' hle]
    simp only [hn]

-- What the second rule joins to a code point that the first one has joined is joined already.
def Chains (first second : FoldRule) : Prop :=
  ∀ a b c, first.joins a b = true → second.joins b c = true →
    a = c ∨ ∃ rule ∈ foldRules, rule.joins a c = true

variable {first second rule : FoldRule} {rules : List FoldRule} {a b : Nat}

theorem Chains.symm (h : Chains first second) : Chains second first := by
  intro a b c hab hbc
  have hca := h c b a (by rwa [joins_comm]) (by rwa [joins_comm])
  simpa only [joins_comm _ c a, eq_comm (a := c)] using hca

theorem chains_of_closes (h : first.closes second = true) : Chains first second := by
  intro a b c hab hbc
  rw [closes, List.all_eq_true] at h
  rw [joins, Bool.or_eq_true, Bool.and_eq_true, Bool.and_eq_true, beq_iff_eq, beq_iff_eq] at hab
  rcases hab with ⟨rfl, hcovers⟩ | ⟨rfl, hcovers⟩
  · have hhigh := (Bool.and_eq_true_iff.mp (h _ (mem_pairs hcovers))).2
    have hc := List.all_eq_true.mp hhigh c (mem_partners.mpr hbc)
    rwa [Bool.or_eq_true, beq_iff_eq, List.any_eq_true] at hc
  · have hlow := (Bool.and_eq_true_iff.mp (h _ (mem_pairs hcovers))).1
    have hc := List.all_eq_true.mp hlow c (mem_partners.mpr hbc)
    rwa [Bool.or_eq_true, beq_iff_eq, List.any_eq_true] at hc

theorem testBit_side {start length n : Nat} :
    ((Nat.pow 2 length - 1) <<< start).testBit n = true ↔ start ≤ n ∧ n < start + length := by
  rw [Nat.pow_eq, Nat.testBit_shiftLeft, Nat.testBit_two_pow_sub_one, Bool.and_eq_true,
    decide_eq_true_iff, decide_eq_true_iff]
  omega

theorem testBit_mask (h : rule.joins a b = true) : rule.mask.testBit a = true := by
  rw [joins, Bool.or_eq_true, Bool.and_eq_true, Bool.and_eq_true, beq_iff_eq, beq_iff_eq] at h
  rw [mask, Nat.testBit_or, Bool.or_eq_true, testBit_side, testBit_side]
  rcases h with ⟨-, hcovers⟩ | ⟨rfl, hcovers⟩
  · exact .inl (covers_iff.mp hcovers).1
  · right
    have hrange := (covers_iff.mp hcovers).1
    omega

theorem testBit_maskAll (hmem : rule ∈ rules) {n : Nat} (h : rule.mask.testBit n = true) :
    (maskAll rules).testBit n = true := by
  induction rules with
  | nil => contradiction
  | cons first rules ih =>
      rw [maskAll, List.foldr_cons, Nat.testBit_or, Bool.or_eq_true]
      rcases List.mem_cons.mp hmem with rfl | hmem
      · exact .inl h
      · exact .inr (ih hmem)

-- Rules without a common bit do not meet.
theorem chains_of_land_eq_zero {mask : Nat} (hland : Nat.land first.mask mask = 0)
    (hmask : ∀ n, second.mask.testBit n = true → mask.testBit n = true) : Chains first second := by
  intro a b c hab hbc
  have hfirst : first.mask.testBit b = true := testBit_mask (by rwa [joins_comm])
  have hsecond : mask.testBit b = true := hmask b (testBit_mask hbc)
  have hboth : (first.mask &&& mask).testBit b = true := by
    rw [Nat.testBit_and, hfirst, hsecond, Bool.and_self]
  change (Nat.land first.mask mask).testBit b = true at hboth
  rw [hland, Nat.zero_testBit] at hboth
  contradiction

theorem chains_of_fits (h : first.fits second = true) : Chains first second := by
  rw [fits, Bool.or_eq_true, beq_iff_eq] at h
  rcases h with hland | hcloses
  · exact chains_of_land_eq_zero hland fun n hn => hn
  · split at hcloses
    case isTrue => exact chains_of_closes hcloses
    case isFalse => exact (chains_of_closes hcloses).symm

theorem pairwise_chains (h : areClosed rules = true) : rules.Pairwise Chains := by
  induction rules with
  | nil => exact .nil
  | cons rule rest ih =>
      rw [areClosed, Bool.and_eq_true, Bool.or_eq_true, beq_iff_eq, List.all_eq_true] at h
      obtain ⟨hrule, hrest⟩ := h
      refine List.pairwise_cons.mpr ⟨fun later hmem => ?_, ih hrest⟩
      rcases hrule with hland | hfits
      · exact chains_of_land_eq_zero hland fun n => testBit_maskAll hmem
      · exact chains_of_fits (hfits later hmem)

theorem not_covers_add (h : rule.shift % rule.stride ≠ 0 ∨ rule.count * rule.stride ≤ rule.shift)
    {n : Nat} (hcovers : rule.covers n = true) : ¬rule.covers (n + rule.shift) = true := by
  rw [covers_iff] at hcovers ⊢
  rintro ⟨⟨hle, hlt⟩, hmod⟩
  obtain ⟨⟨hle', -⟩, hmod'⟩ := hcovers
  rcases h with hshift | hshift
  · rw [Nat.sub_add_comm hle', Nat.add_mod, hmod', Nat.zero_add, Nat.mod_mod] at hmod
    exact hshift hmod
  · omega

theorem chains_self (h : rule.isClosed = true) : Chains rule rule := by
  rw [isClosed, Bool.or_eq_true, Bool.or_eq_true, bne_iff_ne, Nat.ble_eq] at h
  rcases h with hapart | hcloses
  · intro a b c hab hbc
    left
    rw [joins, Bool.or_eq_true, Bool.and_eq_true, Bool.and_eq_true, beq_iff_eq,
      beq_iff_eq] at hab hbc
    rcases hab with ⟨rfl, hcovers⟩ | ⟨rfl, hcovers⟩ <;>
      rcases hbc with ⟨hc, hcovers'⟩ | ⟨hc, hcovers'⟩
    · exact absurd hcovers' (not_covers_add hapart hcovers)
    · exact (Nat.add_right_cancel hc).symm
    · exact hc
    · rw [← hc] at hcovers
      exact absurd hcovers (not_covers_add hapart hcovers')
  · exact chains_of_closes hcloses

theorem areClosed_foldRules : areClosed foldRules = true := by decide +kernel

theorem isClosed_of_mem : ∀ rule ∈ foldRules, rule.isClosed = true := by decide +kernel

theorem isValid_of_mem : ∀ rule ∈ foldRules, rule.isValid = true := by decide +kernel

theorem chains_of_mem (hfirst : first ∈ foldRules) (hsecond : second ∈ foldRules) :
    Chains first second := by
  have : Std.Symm Chains := ⟨fun _ _ => Chains.symm⟩
  exact (pairwise_chains areClosed_foldRules).forall_of_forall
    (fun rule hmem => chains_self (isClosed_of_mem rule hmem)) hfirst hsecond

-- The two code points lie on one side of the surrogates.
theorem isValidChar_of_joins (h : rule.isValid = true) (hjoins : rule.joins a b = true) :
    b.isValidChar := by
  rw [joins, Bool.or_eq_true, Bool.and_eq_true, Bool.and_eq_true, beq_iff_eq, beq_iff_eq,
    covers_iff, covers_iff] at hjoins
  rw [isValid, Bool.or_eq_true, Bool.and_eq_true, Nat.ble_eq, Nat.ble_eq, Nat.ble_eq] at h
  unfold Nat.isValidChar
  omega

end FoldRule

theorem mem_foldPartners {a b : Nat} :
    b ∈ foldPartners a ↔ ∃ rule ∈ foldRules, rule.joins a b = true := by
  simp only [foldPartners, List.mem_flatMap, FoldRule.mem_partners]

theorem isValidChar_of_mem_foldPartners {a b : Nat} (h : b ∈ foldPartners a) : b.isValidChar := by
  obtain ⟨rule, hmem, hjoins⟩ := mem_foldPartners.mp h
  exact FoldRule.isValidChar_of_joins (FoldRule.isValid_of_mem rule hmem) hjoins

theorem equalUpToCase_iff {a b : Char} :
    equalUpToCase a b = true ↔ a = b ∨ ∃ rule ∈ foldRules, rule.joins a.toNat b.toNat = true := by
  rw [equalUpToCase, Bool.or_eq_true, beq_iff_eq, List.contains_iff_mem, mem_foldPartners]

-- The rules of the table fit together: where two of them meet at a code point, there is a rule for
-- its partners as well.
theorem equalUpToCase_equivalence : Equivalence fun a b => equalUpToCase a b = true where
  refl a := equalUpToCase_iff.mpr (.inl rfl)
  symm h := by
    rw [equalUpToCase_iff] at h ⊢
    simpa only [FoldRule.joins_comm, eq_comm] using h
  trans hab hbc := by
    rw [equalUpToCase_iff] at hab hbc ⊢
    rcases hab with rfl | ⟨first, hfirst, hab⟩
    · exact hbc
    · rcases hbc with rfl | ⟨second, hsecond, hbc⟩
      · exact .inr ⟨first, hfirst, hab⟩
      · exact (FoldRule.chains_of_mem hfirst hsecond _ _ _ hab hbc).imp_left Char.toNat_inj.mp

end StackLexer
