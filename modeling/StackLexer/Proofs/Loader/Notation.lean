import Mathlib.Data.List.DropRight
import StackLexer.Grammar
import StackLexer.Proofs.Outcome
import StackLexer.Token.Name

namespace StackLexer

namespace Text

-- A text without white space at either end that is not empty and no directive.
structure Bare (text : Text) : Prop where
  nonempty : text ≠ []
  lead : ∀ c ∈ text.head?, isBlank c = false
  trail : ∀ c ∈ text.getLast?, isBlank c = false
  unmarked : text.head? ≠ some '#'

theorem trimStart_lead (text : Text) : ∀ c ∈ (trimStart text).head?, isBlank c = false := by
  intro c hc
  have h := List.head?_dropWhile_not isBlank text
  rw [Option.mem_def] at hc
  rw [← trimStart, hc] at h
  exact h

theorem trimEnd_trail (text : Text) : ∀ c ∈ (trimEnd text).getLast?, isBlank c = false := by
  intro c hc
  have h := List.head?_dropWhile_not isBlank text.reverse
  rw [trimEnd, List.getLast?_reverse, Option.mem_def] at hc
  rw [hc] at h
  exact h

theorem trimEnd_prefix (text : Text) : trimEnd text <+: text := List.rdropWhile_prefix isBlank text

theorem trim_lead (text : Text) : ∀ c ∈ (trim text).head?, isBlank c = false := by
  intro c hc
  apply trimStart_lead text c
  obtain ⟨rest, hrest⟩ := trimEnd_prefix (trimStart text)
  rw [← hrest, List.head?_append, ← trim, hc]
  rfl

theorem trim_trail (text : Text) : ∀ c ∈ (trim text).getLast?, isBlank c = false :=
  trimEnd_trail (trimStart text)

theorem trim_eq_self {text : Text} (hlead : ∀ c ∈ text.head?, isBlank c = false)
    (htrail : ∀ c ∈ text.getLast?, isBlank c = false) : trim text = text := by
  have hstart : trimStart text = text := by
    cases text with
    | nil => rfl
    | cons c rest => exact List.dropWhile_cons_of_neg (by simp [hlead c rfl])
  have hend : trimEnd text = text := by
    refine List.rdropWhile_eq_self_iff.mpr fun hne => ?_
    simp [htrail _ (List.getLast?_eq_some_getLast hne)]
  rw [trim, hstart, hend]

theorem stripLead?_append (lead rest : Text) : stripLead? lead (lead ++ rest) = some rest := by
  induction lead with
  | nil => rfl
  | cons c lead ih => simpa [stripLead?] using ih

theorem stripLead?_eq_some {lead text rest : Text} :
    stripLead? lead text = some rest ↔ text = lead ++ rest := by
  constructor
  · fun_induction stripLead? lead text with
    | case1 text => rintro ⟨⟩; rfl
    | case2 => simp
    | case3 lead c text ih =>
      intro h
      rw [ih h, List.cons_append]
    | case4 => simp
  · rintro rfl
    exact stripLead?_append lead rest

theorem stripLead?_ne_head {c : Char} {lead text : Text} (h : text.head? ≠ some c) :
    stripLead? (c :: lead) text = none := by
  cases text with
  | nil => rfl
  | cons d rest =>
    have hne : c ≠ d := fun heq => h (by rw [heq]; rfl)
    simp [stripLead?, hne]

-- A digit of base ten is its place among the digits.
theorem digit?_ten {c : Char} (h : c.isDigit = true) :
    digit? 10 c = some (c.toNat - '0'.toNat) := by
  obtain ⟨hlow, hhigh⟩ : 0x30 ≤ c.toNat ∧ c.toNat ≤ 0x39 := by
    simpa [Char.isDigit, UInt32.le_iff_toNat_le] using h
  have hzero : '0'.toNat = 0x30 := rfl
  simp only [digit?, hlow, hhigh, and_self, if_true, hzero]
  rw [if_pos (by omega)]

theorem digitsFrom?_ten {text : Text} (h : ∀ c ∈ text, c.isDigit = true) (read : Nat) :
    digitsFrom? 10 read text = some (Nat.ofDigitChars 10 text read) := by
  induction text generalizing read with
  | nil => rfl
  | cons c rest ih =>
    rw [digitsFrom?, digit?_ten (h c (by simp)), Option.bind_some,
      ih fun d hd => h d (by simp [hd])]
    rw [Nat.mul_comm read 10]
    rfl

theorem isDigit_toDigits {n : Nat} : ∀ c ∈ Nat.toDigits 10 n, c.isDigit = true :=
  fun _ hc => Nat.isDigit_of_mem_toDigits (by decide) (by decide) hc

theorem count?_toDigits {n : Nat} (h : n ≤ maxCount) : count? (Nat.toDigits 10 n) = some n := by
  have hdigits : digits? 10 (Nat.toDigits 10 n) = some n := by
    have hread := digitsFrom?_ten (isDigit_toDigits (n := n)) 0
    rw [Nat.ofDigitChars_toDigits (by decide) (by decide)] at hread
    cases hn : Nat.toDigits 10 n with
    | nil => exact absurd hn Nat.toDigits_ne_nil
    | cons c rest => rwa [hn] at hread
  -- No sign stands in front.
  have hsign : ∀ rest, Nat.toDigits 10 n ≠ '+' :: rest := by
    intro rest heq
    have := isDigit_toDigits (n := n) '+' (by simp [heq])
    exact absurd this (by decide)
  unfold count?
  split
  · exact absurd ‹_› (hsign _)
  · simp [hdigits, h]

theorem count?_le {text : Text} {n : Nat} (h : count? text = some n) : n ≤ maxCount := by
  unfold count? at h
  obtain ⟨m, -, hm⟩ := Option.bind_eq_some_iff.mp h
  split at hm
  · simpa [← Option.some.inj hm]
  · simp at hm

theorem isBlank_of_isDigit {c : Char} (h : c.isDigit = true) : isBlank c = false := by
  obtain ⟨hlow, hhigh⟩ : 0x30 ≤ c.toNat ∧ c.toNat ≤ 0x39 := by
    simpa [Char.isDigit, UInt32.le_iff_toNat_le] using h
  simp [isBlank]
  omega

end Text

namespace StackOp

-- A push of a name that can stand in a notation, or a pop of at least one state and at most as
-- many as there are counts.
def Writable : StackOp → Prop
  | .push state => Text.Bare state.toList
  | .pushCurrent => True
  | .pop count => 1 ≤ count ∧ count ≤ maxCount

-- The texts that stand for an operation. `#pop` is a short form; other counts are written out, and
-- a plus sign and zeros may stand in front of them.
inductive Spells : Text → StackOp → Prop where
  | push {name} (hname : Text.Bare name) : Spells name (.push (String.ofList name))
  | pushCurrent : Spells "#push".toList .pushCurrent
  | popOne : Spells "#pop".toList (.pop 1)
  | pop {digits count} (hcount : Text.count? digits = some count) (hlow : 1 ≤ count) :
      Spells ("#pop:".toList ++ digits) (.pop count)

theorem spells_of_parse {text : String} {op : StackOp} (h : parse text = .ok op) :
    Spells (Text.trim text.toList) op := by
  have hlead := Text.trim_lead text.toList
  have htrail := Text.trim_trail text.toList
  unfold parse at h
  generalize Text.trim text.toList = trimmed at h hlead htrail
  have hshown {name : String} (hname : String.ofList trimmed = name) : trimmed = name.toList := by
    rw [← hname, String.toList_ofList]
  dsimp only at h
  split at h
  · cases h
  rename_i hne
  split at h
  · rename_i hpush
    cases h
    exact hshown hpush ▸ .pushCurrent
  split at h
  · rename_i hpop
    cases h
    exact hshown hpop ▸ .popOne
  split at h
  · rename_i digits hstrip
    split at h
    · cases h
    · cases h
    · rename_i n hcount
      cases h
      exact Text.stripLead?_eq_some.mp hstrip ▸ .pop hcount (Nat.le_add_left 1 n)
  · split at h
    · cases h
    · rename_i hmark
      cases h
      exact .push ⟨by simpa using hne, hlead, htrail, hmark⟩

theorem parse_of_spells {text : String} {op : StackOp} (h : Spells (Text.trim text.toList) op) :
    parse text = .ok op := by
  generalize htrim : Text.trim text.toList = trimmed at h
  unfold parse
  rw [htrim]
  cases h with
  | push hname =>
    have hmarked (name : String) (hhead : name.toList.head? = some '#') :
        String.ofList trimmed ≠ name := by
      rintro rfl
      rw [String.toList_ofList] at hhead
      exact hname.unmarked hhead
    have hstrip : Text.stripLead? "#pop:".toList trimmed = none :=
      Text.stripLead?_ne_head hname.unmarked
    simp only [hstrip]
    rw [if_neg (by simpa using hname.nonempty), if_neg (hmarked "#push" rfl),
      if_neg (hmarked "#pop" rfl), if_neg hname.unmarked]
  | pushCurrent => rfl
  | popOne => rfl
  | @pop digits count hcount hlow =>
    -- A count is not empty, so this is neither of the forms without one.
    have hlong (name : String) (hlength : name.toList.length ≤ 5) :
        String.ofList ("#pop:".toList ++ digits) ≠ name := by
      rintro rfl
      have hnil : digits = [] := by
        have hpop : "#pop:".toList.length = 5 := rfl
        rw [String.toList_ofList, List.length_append] at hlength
        exact List.length_eq_zero_iff.mp (by omega)
      rw [hnil] at hcount
      cases hcount
    obtain ⟨n, rfl⟩ : ∃ n, count = n + 1 := ⟨count - 1, by omega⟩
    simp only [Text.stripLead?_append, hcount]
    rw [if_neg (by simp), if_neg (hlong "#push" (by decide)), if_neg (hlong "#pop" (by decide))]

-- Reading goes by the texts that stand for an operation.
theorem parse_eq_ok_iff {text : String} {op : StackOp} :
    parse text = .ok op ↔ Spells (Text.trim text.toList) op :=
  ⟨spells_of_parse, parse_of_spells⟩

theorem Spells.writable {text : Text} {op : StackOp} (h : Spells text op) : op.Writable := by
  cases h with
  | push hname =>
    rw [Writable, String.toList_ofList]
    exact hname
  | pushCurrent => trivial
  | popOne => exact ⟨by decide, by decide⟩
  | pop hcount hlow => exact ⟨hlow, Text.count?_le hcount⟩

theorem parse_writable {text : String} {op : StackOp} (h : parse text = .ok op) : op.Writable :=
  (parse_eq_ok_iff.mp h).writable

-- What is printed for an operation is one of its texts, without white space around it.
theorem Writable.spells {op : StackOp} (h : op.Writable) :
    Spells (Text.trim op.print.toList) op := by
  cases op with
  | push state =>
    have hstate := Spells.push h
    rw [String.ofList_toList] at hstate
    rwa [print, Text.trim_eq_self h.lead h.trail]
  | pushCurrent => exact .pushCurrent
  | pop count =>
    by_cases hone : count = 1
    · subst hone
      exact .popOne
    · have htext : (print (.pop count)).toList = "#pop:".toList ++ Nat.toDigits 10 count := by
        rw [print, if_neg hone]
        change ("#pop:" ++ toString count).toList = _
        rw [String.toList_append, Nat.toString_eq_repr, Nat.toList_repr]
      have htrail : ∀ c ∈ ("#pop:".toList ++ Nat.toDigits 10 count).getLast?,
          Text.isBlank c = false := by
        intro c hc
        rw [List.getLast?_append_of_ne_nil _ Nat.toDigits_ne_nil] at hc
        exact Text.isBlank_of_isDigit (Text.isDigit_toDigits c (List.mem_of_mem_getLast? hc))
      rw [htext, Text.trim_eq_self (by simp [Text.isBlank]) htrail]
      exact .pop (Text.count?_toDigits h.2) h.1

-- What is writable is read back from its print.
theorem parse_print {op : StackOp} (h : op.Writable) : parse op.print = .ok op :=
  parse_eq_ok_iff.mpr h.spells

end StackOp

namespace Transition

-- Every operation can be given by a notation.
def Writable (transition : Transition) : Prop := ∀ op ∈ transition.ops, op.Writable

-- One notation for each operation, in order.
theorem parseAll_eq_ok_iff {texts : List String} {ops : List StackOp} :
    parseAll texts = .ok ⟨ops⟩ ↔
      List.Forall₂ (fun text op => StackOp.parse text = .ok op) texts ops := by
  have hmapM : parseAll texts = .ok ⟨ops⟩ ↔ texts.mapM StackOp.parse = .ok ops := by
    unfold parseAll
    cases texts.mapM StackOp.parse with
    | error error => exact ⟨nofun, nofun⟩
    | ok read => simp [Functor.map, Except.map]
  rw [hmapM, mapM_eq_ok]

theorem parseAll_writable {texts : List String} {transition : Transition}
    (h : parseAll texts = .ok transition) : transition.Writable := by
  obtain ⟨ops⟩ := transition
  have hops := parseAll_eq_ok_iff.mp h
  clear h
  unfold Writable
  dsimp only
  induction hops with
  | nil => simp
  | cons hfirst _ ih => exact List.forall_mem_cons.mpr ⟨StackOp.parse_writable hfirst, ih⟩

theorem parseAll_print {transition : Transition} (h : transition.Writable) :
    parseAll (transition.ops.map StackOp.print) = .ok transition := by
  refine parseAll_eq_ok_iff.mpr (List.forall₂_map_left_iff.mpr (List.forall₂_same.mpr ?_))
  intro op hmem
  exact StackOp.parse_print (h op hmem)

-- An operation is read back from its print if and only if it is writable. Every operation that
-- texts are read as is so, and a list of texts gives the transition that its prints give.
theorem parse_print_iff_writable :
    (∀ op : StackOp, StackOp.parse op.print = .ok op ↔ op.Writable) ∧
    ∀ texts transition, parseAll texts = .ok transition →
      (∀ op ∈ transition.ops, op.Writable) ∧
        parseAll (transition.ops.map StackOp.print) = .ok transition := by
  refine ⟨fun op => ⟨StackOp.parse_writable, StackOp.parse_print⟩, fun texts transition h => ?_⟩
  have hwritable := parseAll_writable h
  exact ⟨hwritable, parseAll_print hwritable⟩

-- Texts with blanks, signs and zeros, and a name that has a directive in it.
def mixedTexts : List String :=
  [" #pop:+007", "#pop:1", "#push\n", "#pop:18446744073709551615", "\u2003a #pop\u2003"]

def mixed : Transition := ⟨[.pop 7, .pop 1, .pushCurrent, .pop maxCount, .push "a #pop"]⟩

theorem mixed_parse_print : parseAll mixedTexts = .ok mixed ∧
    (∀ op ∈ mixed.ops, op.Writable) ∧ parseAll (mixed.ops.map StackOp.print) = .ok mixed := by
  have hread : parseAll mixedTexts = .ok mixed := by decide +kernel
  exact ⟨hread, parse_print_iff_writable.2 mixedTexts mixed hread⟩

end Transition

namespace Kind

theorem mem_all (kind : Kind) : kind ∈ all := by
  cases kind <;> decide

-- A dotted name has no white space and no prefix to drop, and no other kind has it. The names are
-- gone through once, as it takes long to read them.
theorem dottedName_checks : ∀ kind ∈ all,
    let name := Text.trim kind.dottedName.toList
    named? ((Text.stripLead? "Token.".toList name).getD name) = some kind ∧
      ' ' ∉ kind.dottedName.toList ∧ '\n' ∉ kind.dottedName.toList := by
  decide +kernel

theorem parse_dottedName (kind : Kind) : parse kind.dottedName = .ok kind := by
  unfold parse
  dsimp only
  rw [(dottedName_checks kind kind.mem_all).1]

theorem notMem_dottedName (kind : Kind) :
    ' ' ∉ kind.dottedName.toList ∧ '\n' ∉ kind.dottedName.toList :=
  (dottedName_checks kind kind.mem_all).2

theorem dottedName_injective : Function.Injective fun kind : Kind => kind.dottedName.toList := by
  intro a b heq
  have hparse := a.parse_dottedName
  rw [String.toList_inj.mp heq, b.parse_dottedName] at hparse
  exact (Except.ok.inj hparse).symm

end Kind

namespace LexerName

theorem ofText_ne_this (text : String) : ofText text ≠ .named "this" := by
  unfold ofText
  split
  · exact nofun
  · rename_i hne
    rintro ⟨⟩
    exact hne rfl

theorem ofText_text {name : LexerName} (h : name ≠ .named "this") : ofText name.text = name := by
  cases name with
  | this => rfl
  | named name =>
    have hne : name ≠ "this" := fun heq => h (by rw [heq])
    rw [text, ofText, if_neg hne]

end LexerName

end StackLexer
