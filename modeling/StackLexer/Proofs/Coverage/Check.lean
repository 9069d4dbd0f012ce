import StackLexer.Coverage
import StackLexer.Proofs.Scan.Calls

namespace StackLexer

theorem Covers.iff_starts {start : Nat} {tokens : List Token} {text : Text} :
    Covers start tokens text ↔
    (∀ token ∈ tokens, token.text ≠ []) ∧ tokens.flatMap Token.text = text ∧
      ∀ index (h : index < tokens.length),
        tokens[index].start = start + Text.size ((tokens.take index).flatMap Token.text) := by
  induction tokens generalizing start text with
  | nil => simp [Covers.nil_iff, eq_comm]
  | cons token tokens ih =>
    rw [Covers.cons_iff]
    constructor
    · rintro ⟨rfl, hne, after, rfl, hrest⟩
      obtain ⟨hnonempty, rfl, hstarts⟩ := ih.mp hrest
      refine ⟨List.forall_mem_cons.mpr ⟨hne, hnonempty⟩, rfl, fun index h => ?_⟩
      cases index with
      | zero => rfl
      | succ index =>
        have hindex := hstarts index (by simpa using h)
        simpa [Token.stop, Nat.add_assoc] using hindex
    · rintro ⟨hnonempty, rfl, hstarts⟩
      obtain ⟨hne, hnonempty⟩ := List.forall_mem_cons.mp hnonempty
      have hstart : token.start = start := hstarts 0 (by simp)
      refine ⟨hstart, hne, tokens.flatMap Token.text, rfl, ih.mpr ⟨hnonempty, rfl, ?_⟩⟩
      intro index h
      have hindex := hstarts (index + 1) (by simpa using h)
      simpa [Token.stop, hstart, Nat.add_assoc] using hindex

namespace Coverage

-- The texts of the tokens are the input cut up into parts that are not empty, and each token
-- starts where the texts before it end.
structure Total (input : Text) (tokens : List Token) : Prop where
  nonempty : ∀ token ∈ tokens, token.text ≠ []
  whole : tokens.flatMap Token.text = input
  starts : ∀ index (h : index < tokens.length),
    tokens[index].start = Text.size ((tokens.take index).flatMap Token.text)

theorem covers_iff_total {input : Text} {tokens : List Token} :
    Covers 0 tokens input ↔ Total input tokens := by
  simp only [Covers.iff_starts, Nat.zero_add]
  exact ⟨fun ⟨hnonempty, hwhole, hstarts⟩ => ⟨hnonempty, hwhole, hstarts⟩,
    fun ⟨hnonempty, hwhole, hstarts⟩ => ⟨hnonempty, hwhole, hstarts⟩⟩

theorem checkFrom_nil_eq_ok {input : Text} {index offset : Nat} :
    checkFrom input index offset [] = .ok () ↔ offset = input.size := by
  by_cases h : offset = input.size <;> simp [checkFrom, h]

-- A token passes if it starts where the last one ended, is not empty, and is what comes next.
theorem checkFrom_cons_eq_ok {input : Text} {index offset : Nat} {token : Token}
    {rest : List Token} :
    checkFrom input index offset (token :: rest) = .ok () ↔
      token.start = offset ∧ token.text ≠ [] ∧ input.slice? token.span = some token.text ∧
        checkFrom input (index + 1) token.stop rest = .ok () := by
  rw [checkFrom]
  by_cases hstart : token.start = offset
  · rw [if_neg (not_not.mpr hstart)]
    by_cases hne : token.text = []
    · simp [hne]
    · rw [if_neg (by simpa using hne)]
      cases hslice : input.slice? token.span with
      | none => simp
      | some found =>
        by_cases hfound : found = token.text
        · simp [hstart, hne, hfound]
        · simp [hfound]
  · simp [hstart]

-- The check goes on behind what it has read; the induction is on the tokens that are left.
theorem checkFrom_eq_ok {read text : Text} {index : Nat} {tokens : List Token} :
    checkFrom (read ++ text) index (Text.size read) tokens = .ok () ↔
      Covers (Text.size read) tokens text := by
  induction tokens generalizing read text index with
  | nil =>
    rw [checkFrom_nil_eq_ok, Covers.nil_iff, Text.size_append, ← Text.size_eq_zero]
    omega
  | cons token tokens ih =>
    rw [checkFrom_cons_eq_ok, Covers.cons_iff]
    refine and_congr_right fun hstart => and_congr_right fun _ => ?_
    have hspan : token.span = ⟨Text.size read, Text.size read + Text.size token.text⟩ := by
      rw [Token.span, Token.stop, hstart]
    have hstop : token.stop = Text.size (read ++ token.text) := by
      rw [Token.stop, hstart, Text.size_append]
    rw [hspan, Text.slice?_behind, hstop, ← exists_and_right]
    refine exists_congr fun after => and_congr_right ?_
    rintro rfl
    rw [← List.append_assoc]
    exact ih

theorem check_eq_ok_iff_covers {input : Text} {tokens : List Token} :
    check input tokens = .ok () ↔ Covers 0 tokens input := by
  rw [check, ← Text.size_nil, ← List.nil_append input]
  exact checkFrom_eq_ok

-- A list passes if and only if it is total. Then no token reaches over the end of the input, so no
-- offset on the way is larger than its size, and every span that is read has its text.
theorem check_eq_ok_iff_total (input : Text) (tokens : List Token) :
    (check input tokens = .ok () ↔ Total input tokens) ∧
    (check input tokens = .ok () → ∀ token ∈ tokens,
      token.start ≤ token.stop ∧ token.stop ≤ input.size ∧
      input.isBoundary token.start = true ∧ input.isBoundary token.stop = true ∧
      input.slice? token.span = some token.text) := by
  refine ⟨check_eq_ok_iff_covers.trans covers_iff_total, fun h token hmem => ?_⟩
  have hcovers := check_eq_ok_iff_covers.mp h
  obtain ⟨-, hstop⟩ := hcovers.within token hmem
  obtain ⟨before, after, hinput, hstart⟩ := hcovers.exists_cut hmem
  rw [Nat.zero_add] at hstop hstart
  have hslice : input.slice? token.span = some token.text :=
    Text.slice?_eq_some.mpr ⟨before, after, hinput, hstart.symm, rfl⟩
  refine ⟨Nat.le_add_right _ _, hstop, ?_, ?_, hslice⟩
  · rw [hinput, hstart, List.append_assoc]
    exact Text.isBoundary_append _ _
  · rw [hinput, Token.stop, hstart, ← Text.size_append]
    exact Text.isBoundary_append _ _

-- Characters of one, two, three and four bytes.
def accents : Text := "hé€😀".toList

def accentTokens : List Token :=
  [⟨.name, 0, ['h']⟩, ⟨.name, 1, ['é']⟩, ⟨.text, 3, ['€']⟩, ⟨.name, 6, ['😀']⟩]

theorem accents_check : check accents accentTokens = .ok () ∧ Total accents accentTokens ∧
    ∀ token ∈ accentTokens, token.start ≤ token.stop ∧ token.stop ≤ accents.size ∧
      accents.isBoundary token.start = true ∧ accents.isBoundary token.stop = true ∧
      accents.slice? token.span = some token.text := by
  have hpass : check accents accentTokens = .ok () := by decide +kernel
  obtain ⟨htotal, hspans⟩ := check_eq_ok_iff_total accents accentTokens
  exact ⟨hpass, htotal.mp hpass, hspans hpass⟩

end Coverage

end StackLexer
