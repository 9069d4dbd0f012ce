import StackLexer.Proofs.Coverage.Check
import StackLexer.Proofs.Scan.Coverage

namespace StackLexer.Coverage

-- The token has the kind of every token of the run, starts where the run does, and has its text.
structure Joins (run : List Token) (token : Token) : Prop where
  kind : ∀ part ∈ run, part.kind = token.kind
  start : run.head?.map Token.start = some token.start
  text : run.flatMap Token.text = token.text

-- The first list in runs, each with the token that stands for it. What follows a run is of another
-- kind, so no run can be made longer.
inductive Merges : List Token → List Token → Prop where
  | nil : Merges [] []
  | cons {run token rest merged} (hjoins : Joins run token)
      (hends : ∀ next ∈ rest.head?, next.kind ≠ token.kind) (hrest : Merges rest merged) :
      Merges (run ++ rest) (token :: merged)

-- The kind of the byte at an offset: that of the token it lies in.
def kindAt? (tokens : List Token) (offset : Nat) : Option Kind :=
  (tokens.find? fun token => token.start ≤ offset ∧ offset < token.stop).map Token.kind

-- No two neighbours are of one kind.
def Alternates (tokens : List Token) : Prop :=
  tokens.IsChain fun token next => token.kind ≠ next.kind

section Joins

variable {run : List Token} {token next : Token}

theorem Joins.single (token : Token) : Joins [token] token where
  kind := by simp
  start := rfl
  text := by simp

theorem Joins.ne_nil (h : Joins run token) : run ≠ [] := by
  rintro rfl
  exact absurd h.start (by simp)

theorem Joins.snoc (h : Joins run token) (hkind : token.kind = next.kind) :
    Joins (run ++ [next]) { token with text := token.text ++ next.text } where
  kind := by
    intro part hmem
    rcases List.mem_append.mp hmem with hrun | hlast
    · exact h.kind part hrun
    · rw [List.mem_singleton.mp hlast, hkind]
  start := by
    rw [List.head?_append_of_ne_nil _ h.ne_nil]
    exact h.start
  text := by
    rw [List.flatMap_append, h.text, List.flatMap_singleton]

end Joins

section Runs

variable {start : Nat} {tokens merged : List Token} {text : Text}

-- The tokens of `run` have been joined into `current`; the induction is on those that are left.
theorem mergeFrom_merges {read after : Text} {run rest : List Token} {current : Token}
    (hjoins : Joins run current) (hstart : current.start = Text.size read)
    (hrest : Covers current.stop rest after) :
    ∃ merged, mergeFrom (read ++ current.text ++ after) current rest = some merged ∧
      Merges (run ++ rest) merged := by
  induction rest generalizing read after run current with
  | nil => exact ⟨[current], rfl, .cons hjoins (by simp) .nil⟩
  | cons token rest ih =>
    obtain ⟨htoken, -, after, rfl, hcovers⟩ := Covers.cons_iff.mp hrest
    by_cases hkind : current.kind = token.kind
    · have hspan : (⟨current.start, token.stop⟩ : Span) =
          ⟨Text.size read, Text.size read + Text.size (current.text ++ token.text)⟩ := by
        rw [Token.stop, htoken, Token.stop, hstart, Text.size_append, Nat.add_assoc]
      have hslice : (read ++ current.text ++ (token.text ++ after)).slice?
          ⟨current.start, token.stop⟩ = some (current.text ++ token.text) := by
        rw [hspan, List.append_assoc, Text.slice?_behind]
        exact ⟨after, by simp⟩
      have hstop : Token.stop { current with text := current.text ++ token.text } =
          token.stop := by
        rw [Token.stop, Token.stop, htoken, Token.stop, Text.size_append, Nat.add_assoc]
      obtain ⟨merged, hmerge, hmerges⟩ := ih (hjoins.snoc hkind) hstart (hstop ▸ hcovers)
      refine ⟨merged, ?_, by simpa using hmerges⟩
      rw [mergeFrom, if_pos ⟨hkind, htoken.symm⟩, hslice]
      simpa using hmerge
    · have hread : token.start = Text.size (read ++ current.text) := by
        rw [htoken, Token.stop, hstart, Text.size_append]
      obtain ⟨merged, hmerge, hmerges⟩ := ih (.single token) hread hcovers
      refine ⟨current :: merged, ?_, ?_⟩
      · rw [mergeFrom, if_neg (fun h => hkind h.1), ← List.append_assoc, hmerge]
        rfl
      · exact .cons hjoins (by simpa using Ne.symm hkind) hmerges

theorem merge_merges (h : Covers 0 tokens text) :
    ∃ merged, merge text tokens = some merged ∧ Merges tokens merged := by
  cases tokens with
  | nil => exact ⟨[], rfl, .nil⟩
  | cons token rest =>
    obtain ⟨hstart, -, after, rfl, hrest⟩ := Covers.cons_iff.mp h
    rw [← Text.size_nil] at hstart
    exact mergeFrom_merges (.single token) hstart hrest

-- The tokens of a run cover what its token covers.
theorem Joins.covers {run : List Token} {token : Token} (hjoins : Joins run token)
    (h : Covers start run text) : token.start = start ∧ token.text ≠ [] ∧ text = token.text := by
  obtain rfl : token.text = text := by rw [← hjoins.text, h.texts_eq]
  cases run with
  | nil => exact absurd rfl hjoins.ne_nil
  | cons first run =>
    obtain ⟨hstart, hne, after, htext, -⟩ := Covers.cons_iff.mp h
    refine ⟨?_, ?_, rfl⟩
    · rw [← hstart]
      exact (Option.some.inj hjoins.start).symm
    · rw [htext]
      simp [hne]

theorem Merges.covers (hmerges : Merges tokens merged) (h : Covers start tokens text) :
    Covers start merged text := by
  induction hmerges generalizing start text with
  | nil => exact h
  | cons hjoins _ _ ih =>
    obtain ⟨covered, after, rfl, hrun, hrest⟩ := h.of_append
    obtain ⟨rfl, hne, rfl⟩ := hjoins.covers hrun
    exact .cons hne (ih hrest)

theorem Merges.head_kind (h : Merges tokens merged) :
    merged.head?.map Token.kind = tokens.head?.map Token.kind := by
  cases h with
  | nil => rfl
  | @cons run token rest merged hjoins _ _ =>
    cases run with
    | nil => exact absurd rfl hjoins.ne_nil
    | cons first run => simp [hjoins.kind first (by simp)]

theorem Merges.alternates (h : Merges tokens merged) : Alternates merged := by
  induction h with
  | nil => exact .nil
  | @cons run token rest merged hjoins hends hrest ih =>
    refine List.isChain_cons.mpr ⟨fun next hnext heq => ?_, ih⟩
    have hkind := hrest.head_kind
    rw [Option.mem_def.mp hnext, Option.map_some] at hkind
    obtain ⟨first, hfirst, hsame⟩ := Option.map_eq_some_iff.mp hkind.symm
    exact hends first hfirst (hsame.trans heq.symm)

end Runs

section Kinds

variable {start offset : Nat} {token : Token} {tokens first second : List Token} {text : Text}

theorem kindAt?_cons : kindAt? (token :: tokens) offset =
    if token.start ≤ offset ∧ offset < token.stop then some token.kind
    else kindAt? tokens offset := by
  rw [kindAt?, List.find?_cons]
  split_ifs with h <;> simp [h, kindAt?]

theorem kindAt?_append :
    kindAt? (first ++ second) offset = (kindAt? first offset).or (kindAt? second offset) := by
  rw [kindAt?, List.find?_append, Option.map_or]
  rfl

theorem kindAt?_head (hstart : token.start ≤ offset) (hstop : offset < token.stop) :
    kindAt? (token :: tokens) offset = some token.kind := by
  rw [kindAt?_cons, if_pos ⟨hstart, hstop⟩]

theorem kindAt?_tail (hstop : token.stop ≤ offset) :
    kindAt? (token :: tokens) offset = kindAt? tokens offset := by
  rw [kindAt?_cons, if_neg (by omega)]

-- Bytes outside of what is covered have no kind.
theorem kindAt?_eq_none (h : Covers start tokens text)
    (hout : ¬(start ≤ offset ∧ offset < start + Text.size text)) :
    kindAt? tokens offset = none := by
  refine Option.map_eq_none_iff.mpr (List.find?_eq_none.mpr fun token hmem => ?_)
  have hwithin := h.within token hmem
  rw [decide_eq_true_eq]
  omega

-- Each byte of what is covered has the kind of one of the tokens.
theorem exists_kindAt? (h : Covers start tokens text) (hstart : start ≤ offset)
    (hstop : offset < start + Text.size text) :
    ∃ token ∈ tokens, kindAt? tokens offset = some token.kind := by
  induction tokens generalizing start text with
  | nil =>
    rw [Covers.nil_iff.mp h, Text.size_nil] at hstop
    omega
  | cons token tokens ih =>
    obtain ⟨rfl, -, after, rfl, hrest⟩ := Covers.cons_iff.mp h
    by_cases hin : offset < token.stop
    · exact ⟨token, by simp, kindAt?_head hstart hin⟩
    · rw [Text.size_append, ← Nat.add_assoc] at hstop
      obtain ⟨other, hmem, hkind⟩ := ih hrest (Nat.not_lt.mp hin) hstop
      rw [kindAt?_tail (Nat.not_lt.mp hin)]
      exact ⟨other, by simp [hmem], hkind⟩

theorem Merges.kindAt?_eq {merged : List Token} (hmerges : Merges tokens merged)
    (h : Covers start tokens text) : kindAt? merged offset = kindAt? tokens offset := by
  induction hmerges generalizing start text with
  | nil => rfl
  | cons hjoins _ _ ih =>
    obtain ⟨covered, after, rfl, hrun, hrest⟩ := h.of_append
    obtain ⟨rfl, -, rfl⟩ := hjoins.covers hrun
    rw [kindAt?_append, kindAt?_cons, ih hrest]
    split_ifs with hin
    · obtain ⟨part, hmem, hpart⟩ := exists_kindAt? hrun hin.1 hin.2
      rw [hpart, hjoins.kind part hmem, Option.some_or]
    · rw [kindAt?_eq_none hrun hin, Option.none_or]

-- Two lists that cover one text give each byte of it the same kind.
def SameKinds (start : Nat) (text : Text) (first second : List Token) : Prop :=
  ∀ offset, start ≤ offset → offset < start + Text.size text →
    kindAt? first offset = kindAt? second offset

theorem SameKinds.symm (h : SameKinds start text first second) :
    SameKinds start text second first :=
  fun offset hstart hstop => (h offset hstart hstop).symm

theorem SameKinds.head_kind {other : Token} {others : List Token}
    (h : SameKinds start text (token :: tokens) (other :: others))
    (hcovers : Covers start (token :: tokens) text)
    (hcovers' : Covers start (other :: others) text) : token.kind = other.kind := by
  obtain ⟨rfl, hne, after, rfl, -⟩ := Covers.cons_iff.mp hcovers
  obtain ⟨hstart, hne', -⟩ := Covers.cons_iff.mp hcovers'
  have hpos := Text.size_pos hne
  have hpos' := Text.size_pos hne'
  have hbyte := h token.start (Nat.le_refl _) (by rw [Text.size_append]; omega)
  rw [kindAt?_head (Nat.le_refl _) (by rw [Token.stop]; omega),
    kindAt?_head (Nat.le_of_eq hstart) (by rw [Token.stop]; omega)] at hbyte
  exact Option.some.inj hbyte

-- The byte behind the first token of a list that alternates is of another kind. So the first token
-- of a list that gives the same kinds does not reach over it.
theorem SameKinds.stop_le {other : Token} {others : List Token}
    (h : SameKinds start text (token :: tokens) (other :: others))
    (hcovers : Covers start (token :: tokens) text)
    (hcovers' : Covers start (other :: others) text)
    (halternates : Alternates (token :: tokens)) : other.stop ≤ token.stop := by
  by_contra hlt
  rw [Nat.not_le] at hlt
  have hkind := h.head_kind hcovers hcovers'
  obtain ⟨-, hwithin⟩ := hcovers'.within other (by simp)
  obtain ⟨hother, -⟩ := Covers.cons_iff.mp hcovers'
  obtain ⟨rfl, hne, after, rfl, hrest⟩ := Covers.cons_iff.mp hcovers
  cases tokens with
  | nil =>
    rw [Covers.nil_iff.mp hrest, List.append_nil, ← Token.stop] at hwithin
    omega
  | cons next tokens =>
    obtain ⟨hnext, hne', -⟩ := Covers.cons_iff.mp hrest
    have hin : token.stop < next.stop := hnext ▸ Nat.lt_add_of_pos_right (Text.size_pos hne')
    have hle : token.start ≤ token.stop := Nat.le_add_right _ _
    have hbyte := h token.stop hle (by omega)
    rw [kindAt?_tail (Nat.le_refl _), kindAt?_head (Nat.le_of_eq hnext) hin,
      kindAt?_head (by omega) hlt, ← hkind] at hbyte
    exact (List.isChain_cons_cons.mp halternates).1 (Option.some.inj hbyte).symm

-- Two lists that alternate are the same if they give the same kinds: their first tokens end at the
-- same place, and so on behind it.
theorem SameKinds.eq (h : SameKinds start text first second)
    (hfirst : Covers start first text) (hsecond : Covers start second text)
    (halternates : Alternates first) (halternates' : Alternates second) : first = second := by
  induction first generalizing start text second with
  | nil =>
    obtain rfl := Covers.nil_iff.mp hfirst
    cases second with
    | nil => rfl
    | cons other second =>
      obtain ⟨-, hne, after, htext, -⟩ := Covers.cons_iff.mp hsecond
      exact absurd htext (by simp [hne])
  | cons token first ih =>
    obtain ⟨hstart, hne, after, htext, hrest⟩ := Covers.cons_iff.mp hfirst
    cases second with
    | nil =>
      rw [Covers.nil_iff.mp hsecond] at htext
      exact absurd htext (by simp [hne])
    | cons other second =>
      have hkind := h.head_kind hfirst hsecond
      have hle := h.stop_le hfirst hsecond halternates
      have hge := h.symm.stop_le hsecond hfirst halternates'
      obtain ⟨hstart', -, after', htext', hrest'⟩ := Covers.cons_iff.mp hsecond
      obtain ⟨hsame, rfl⟩ : token.text = other.text ∧ after = after' := by
        refine Text.append_inj_of_size (htext.symm.trans htext') ?_
        rw [Token.stop, Token.stop] at hle hge
        omega
      have hhead : token = other := by
        cases token
        cases other
        simp_all
      subst hhead
      refine congrArg (token :: ·) (ih ?_ hrest hrest' halternates.tail halternates'.tail)
      intro offset hlow hhigh
      have hbyte := h offset (Nat.le_trans (hstart ▸ Nat.le_add_right _ _) hlow) (by
        rw [htext, Text.size_append, ← Nat.add_assoc, ← hstart]
        exact hhigh)
      rwa [kindAt?_tail hlow, kindAt?_tail hlow] at hbyte

end Kinds

-- A list that alternates is left as it is.
theorem mergeFrom_of_alternates {input : Text} {current : Token} {rest : List Token}
    (h : Alternates (current :: rest)) : mergeFrom input current rest = some (current :: rest) := by
  induction rest generalizing current with
  | nil => rfl
  | cons token rest ih =>
    obtain ⟨hkind, hrest⟩ := List.isChain_cons_cons.mp h
    rw [mergeFrom, if_neg (fun hjoin => hkind hjoin.1), ih hrest]
    rfl

theorem merge_of_alternates {input : Text} {tokens : List Token} (h : Alternates tokens) :
    merge input tokens = some tokens := by
  cases tokens with
  | nil => rfl
  | cons token rest => exact mergeFrom_of_alternates h

-- Joining the tokens of a list that covers its input never fails. What it gives covers the input as
-- well, run by run, keeps the kind of every byte, and would be left as it is. Two lists have the
-- same result if and only if they give each byte the same kind.
theorem merge_canonical {input : Text} {tokens : List Token}
    (h : Partition 0 input input.size tokens) :
    ∃ merged, merge input tokens = some merged ∧ Partition 0 input input.size merged ∧
      Merges tokens merged ∧ (∀ offset, kindAt? merged offset = kindAt? tokens offset) ∧
      Alternates merged ∧ merge input merged = some merged ∧
      ∀ other, Partition 0 input input.size other →
        (merge input other = merge input tokens ↔
          ∀ offset < input.size, kindAt? other offset = kindAt? tokens offset) := by
  have hcovers := Covers.iff_partition.mpr h
  obtain ⟨merged, hmerge, hmerges⟩ := merge_merges hcovers
  have hmerged := hmerges.covers hcovers
  have hkinds (offset : Nat) : kindAt? merged offset = kindAt? tokens offset :=
    hmerges.kindAt?_eq hcovers
  refine ⟨merged, hmerge, Covers.iff_partition.mp hmerged, hmerges, hkinds, hmerges.alternates,
    merge_of_alternates hmerges.alternates, fun other hother => ?_⟩
  have hcovers' := Covers.iff_partition.mpr hother
  obtain ⟨merged', hmerge', hmerges'⟩ := merge_merges hcovers'
  have hkinds' (offset : Nat) : kindAt? merged' offset = kindAt? other offset :=
    hmerges'.kindAt?_eq hcovers'
  rw [hmerge, hmerge', Option.some.injEq]
  constructor
  · rintro rfl offset -
    rw [← hkinds, ← hkinds']
  · intro hsame
    have hagree : SameKinds 0 input merged' merged := by
      intro offset _ hstop
      rw [hkinds, hkinds']
      exact hsame offset (by simpa using hstop)
    exact hagree.eq (hmerges'.covers hcovers') hmerged hmerges'.alternates hmerges.alternates

-- The same kinds in other pieces.
def accentPieces : List Token :=
  [⟨.name, 0, ['h', 'é']⟩, ⟨.text, 3, ['€']⟩, ⟨.name, 6, ['😀']⟩]

theorem accents_merge : Partition 0 accents accents.size accentTokens ∧
    Partition 0 accents accents.size accentPieces ∧
    ∃ merged, merge accents accentTokens = some merged ∧
      Partition 0 accents accents.size merged ∧ Merges accentTokens merged ∧
      (∀ offset, kindAt? merged offset = kindAt? accentTokens offset) ∧
      Alternates merged ∧ merge accents merged = some merged ∧
      (merge accents accentPieces = merge accents accentTokens ↔
        ∀ offset < accents.size, kindAt? accentPieces offset = kindAt? accentTokens offset) := by
  have hcheck : check accents accentTokens = .ok () := by decide +kernel
  have hcheck' : check accents accentPieces = .ok () := by decide +kernel
  have htokens := Covers.iff_partition.mp (check_eq_ok_iff_covers.mp hcheck)
  have hpieces := Covers.iff_partition.mp (check_eq_ok_iff_covers.mp hcheck')
  obtain ⟨merged, hmerge, hmerged, hmerges, hkinds, halternates, hagain, hother⟩ :=
    merge_canonical htokens
  exact ⟨htokens, hpieces, merged, hmerge, hmerged, hmerges, hkinds, halternates, hagain,
    hother accentPieces hpieces⟩

end StackLexer.Coverage
