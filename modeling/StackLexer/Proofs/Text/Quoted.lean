import Mathlib.Tactic.SplitIfs
import StackLexer.Proofs.Text.SelfDelimiting
import StackLexer.Text.Quoted

namespace StackLexer.Text

section Digits

theorem exists_of_mem_toDigits {base n : Nat} {c : Char} (hbase : 1 < base)
    (h : c ∈ Nat.toDigits base n) : ∃ digit < base, c = digit.digitChar := by
  induction n using Nat.strongRecOn with
  | ind n ih =>
    by_cases hlow : n < base
    · rw [Nat.toDigits_of_lt_base hlow, List.mem_singleton] at h
      exact ⟨n, hlow, h⟩
    · rw [Nat.toDigits_of_base_le hbase (Nat.not_lt.mp hlow), List.mem_append,
        List.mem_singleton] at h
      rcases h with hmem | rfl
      · exact ih (n / base) (Nat.div_lt_self (by omega) hbase) hmem
      · exact ⟨n % base, Nat.mod_lt _ (by omega), rfl⟩

theorem digitsFrom?_append (base read : Nat) (first second : Text) :
    digitsFrom? base read (first ++ second) =
      (digitsFrom? base read first).bind fun read => digitsFrom? base read second := by
  induction first generalizing read with
  | nil => rfl
  | cons c first ih =>
    rw [List.cons_append, digitsFrom?, digitsFrom?, Option.bind_assoc]
    exact Option.bind_congr fun digit _ => ih _

theorem digit?_digitChar : ∀ digit < 16, digit? 16 digit.digitChar = some digit := by
  decide

theorem digitsFrom?_hexDigits (n : Nat) : digitsFrom? 16 0 (hexDigits n) = some n := by
  induction n using Nat.strongRecOn with
  | ind n ih =>
    rw [hexDigits]
    by_cases hlow : n < 16
    · rw [Nat.toDigits_of_lt_base hlow, digitsFrom?, digit?_digitChar n hlow]
      simp [digitsFrom?]
    · have hlast : n % 16 < 16 := Nat.mod_lt _ (by decide)
      rw [Nat.toDigits_of_base_le (by decide) (Nat.not_lt.mp hlow), digitsFrom?_append, ← hexDigits,
        ih (n / 16) (by omega), Option.bind_some, digitsFrom?, digit?_digitChar _ hlast,
        Option.bind_some, digitsFrom?, Nat.div_add_mod']

-- A number, and a mark behind it that is no digit.
theorem toDigits_selfDelimiting {mark : Char} (hmark : mark.isDigit = false) :
    SelfDelimiting fun n : Nat => Nat.toDigits 10 n ++ [mark] := by
  refine .of_mark (fun m n heq => ?_) fun n hmem => ?_
  · have hread := congrArg (Nat.ofDigitChars 10 · 0) heq
    simpa only [Nat.ofDigitChars_ten_toDigits] using hread
  · have hdigit := Nat.isDigit_of_mem_toDigits (by decide) (by decide) hmem
    rw [hmark] at hdigit
    contradiction

end Digits

-- What a letter behind a backslash stands for.
def lettered : Char → Char
  | 't' => '\t'
  | 'n' => '\n'
  | 'r' => '\x0d'
  | '0' => '\x00'
  | c => c

-- The ways to write a character in quotes.
inductive Quoting (c : Char) : Text → Prop where
  | plain (hquote : c ≠ '"') (hslash : c ≠ '\\') (hline : c ≠ '\n') : Quoting c [c]
  | letter {d} (hchar : lettered d = c) (hnumber : d ≠ 'u') (hline : d ≠ '\n') :
      Quoting c ['\\', d]
  | number : Quoting c (['\\', 'u', '\x7b'] ++ (hexDigits c.toNat ++ ['\x7d']))

theorem quotedChar_quoting (c : Char) : Quoting c (quotedChar c) := by
  unfold quotedChar
  split_ifs with hquote hslash htab hline hreturn hnull hshown
  iterate 5
    · subst_vars
      exact .letter (by decide) (by decide) (by decide)
  · obtain rfl : c = '\x00' := Char.toNat_inj.mp hnull
    exact .letter (d := '0') rfl (by decide) (by decide)
  · exact .plain hquote hslash hline
  · rw [List.append_assoc]
    exact .number

theorem notMem_hexDigits {mark : Char} (hmark : ∀ digit < 16, Nat.digitChar digit ≠ mark)
    (n : Nat) : mark ∉ hexDigits n := by
  intro hmem
  obtain ⟨digit, hlow, rfl⟩ := exists_of_mem_toDigits (by decide) hmem
  exact hmark digit hlow rfl

theorem hexDigits_selfDelimiting :
    SelfDelimiting fun c : Char => hexDigits c.toNat ++ ['\x7d'] := by
  refine .of_mark (fun a b heq => ?_) fun _ => notMem_hexDigits (by decide) _
  have hread := digitsFrom?_hexDigits a.toNat
  rw [heq, digitsFrom?_hexDigits] at hread
  exact Char.toNat_inj.mp (Option.some.inj hread).symm

theorem quotedChar_selfDelimiting : SelfDelimiting quotedChar := by
  intro a b rest rest' heq
  have ha := quotedChar_quoting a
  have hb := quotedChar_quoting b
  generalize quotedChar a = written at heq ha
  generalize quotedChar b = written' at heq hb
  cases ha with
  | plain hquote hslash _ =>
    cases hb with
    | plain => simpa using heq
    | letter => exact absurd (List.cons.inj heq).1 hslash
    | number => exact absurd (List.cons.inj heq).1 hslash
  | letter hchar hnumber _ =>
    cases hb with
    | plain _ hslash _ => exact absurd (List.cons.inj heq).1.symm hslash
    | letter hchar' _ _ =>
      simp only [List.cons_append, List.cons.injEq, true_and, List.nil_append] at heq
      exact ⟨hchar.symm.trans ((congrArg lettered heq.1).trans hchar'), heq.2⟩
    | number => exact absurd (List.cons.inj (List.cons.inj heq).2).1 hnumber
  | number =>
    cases hb with
    | plain _ hslash _ => exact absurd (List.cons.inj heq).1.symm hslash
    | letter _ hnumber _ => exact absurd (List.cons.inj (List.cons.inj heq).2).1.symm hnumber
    | number => exact (hexDigits_selfDelimiting.lead ['\\', 'u', '\x7b']) heq

-- The quotes end at the first quote that no backslash stands before.
theorem quoted_selfDelimiting : SelfDelimiting quoted := by
  have hhead (c : Char) : ∃ d rest, quotedChar c = d :: rest ∧ d ≠ '"' := by
    have hc := quotedChar_quoting c
    generalize quotedChar c = written at hc
    cases hc with
    | plain hquote _ _ => exact ⟨c, [], rfl, hquote⟩
    | letter => exact ⟨'\\', _, rfl, by decide⟩
    | number => exact ⟨'\\', _, rfl, by decide⟩
  exact (quotedChar_selfDelimiting.list hhead).lead ['"']

theorem newline_notMem_quotedChar (c : Char) : '\n' ∉ quotedChar c := by
  have hc := quotedChar_quoting c
  generalize quotedChar c = written at hc
  cases hc with
  | plain _ _ hline => simpa using hline.symm
  | letter _ _ hline => simpa using hline.symm
  | number =>
    have hdigits : '\n' ∉ hexDigits c.toNat := notMem_hexDigits (by decide) _
    simpa using hdigits

theorem newline_notMem_quoted (text : Text) : '\n' ∉ quoted text := by
  simp [quoted, newline_notMem_quotedChar]

end StackLexer.Text
