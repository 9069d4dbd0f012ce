import Mathlib.Data.String.Basic
import StackLexer.Proofs.Outcome
import StackLexer.Proofs.Words.Meaning

namespace StackLexer

-- Of two starts of a text the one with fewer bytes begins the other one.
theorem Text.prefix_of_size_le {first second text : Text} (hfirst : first <+: text)
    (hsecond : second <+: text) (hle : Text.size first ≤ Text.size second) : first <+: second := by
  rcases List.prefix_or_prefix_of_prefix hfirst hsecond with h | ⟨more, rfl⟩
  · exact h
  · have hmore : Text.size more = 0 := by
      rw [Text.size_append] at hle
      omega
    rw [Text.size_eq_zero.mp hmore, List.append_nil]

theorem Text.size_le_of_prefix {first text : Text} (h : first <+: text) :
    Text.size first ≤ Text.size text := by
  obtain ⟨rest, rfl⟩ := h
  rw [Text.size_append]
  exact Nat.le_add_right ..

namespace Words

section Order

theorem textBefore_eq_false_iff {a b : Text} : textBefore a b = false ↔ b < a := by
  induction a generalizing b with
  | nil => exact iff_of_false (by simp [textBefore]) (List.not_lt_nil b)
  | cons c a ih =>
    cases b with
    | nil => exact iff_of_true rfl (List.nil_lt_cons c a)
    | cons d b =>
      rw [List.cons_lt_cons_iff, textBefore]
      simp only [← Char.lt_def]
      rcases lt_trichotomy c d with hlt | rfl | hlt
      · rw [if_pos hlt]
        simp [hlt.not_gt, hlt.ne']
      · rw [if_neg (lt_irrefl c), if_neg (lt_irrefl c), ih]
        simp
      · rw [if_neg hlt.not_gt, if_pos hlt]
        simp [hlt]

theorem before_iff {a b : Text} :
    before a b = true ↔ Text.size b < Text.size a ∨ Text.size a = Text.size b ∧ a ≤ b := by
  have htext : textBefore a b = true ↔ a ≤ b := by
    rw [← not_lt, ← textBefore_eq_false_iff, Bool.not_eq_false]
  rw [before]
  split
  case isTrue hsize => simp [hsize, htext]
  case isFalse hsize => simp [hsize]

theorem before_trans {a b c : Text} (hab : before a b = true) (hbc : before b c = true) :
    before a c = true := by
  rw [before_iff] at hab hbc ⊢
  rcases hab with hab | ⟨hab, hle⟩ <;> rcases hbc with hbc | ⟨hbc, hle'⟩
  · exact .inl (by omega)
  · exact .inl (by omega)
  · exact .inl (by omega)
  · exact .inr ⟨hab.trans hbc, hle.trans hle'⟩

theorem before_total (a b : Text) : before a b = true ∨ before b a = true := by
  rw [before_iff, before_iff]
  rcases lt_trichotomy (Text.size a) (Text.size b) with hlt | heq | hlt
  · exact .inr (.inl hlt)
  · exact (le_total a b).imp (fun hle => .inr ⟨heq, hle⟩) fun hle => .inr ⟨heq.symm, hle⟩
  · exact .inl (.inl hlt)

theorem mem_dedup {words : List Text} {word : Text} : word ∈ dedup words ↔ word ∈ words := by
  fun_induction dedup words with
  | case1 a rest ih => simp [ih]
  | case2 a b rest _ ih => rw [List.mem_cons, ih, List.mem_cons (l := b :: rest)]
  | case3 => rfl

theorem dedup_sublist (words : List Text) : (dedup words).Sublist words := by
  fun_induction dedup words with
  | case1 a rest ih => exact ih.cons a
  | case2 a b rest _ ih => exact ih.cons_cons a
  | case3 => exact .refl _

theorem mem_arrange {words : List Text} {word : Text} : word ∈ arrange words ↔ word ∈ words := by
  rw [arrange, mem_dedup, List.mem_mergeSort]

-- No word has fewer bytes than one behind it.
theorem arrange_sizes (words : List Text) :
    (arrange words).Pairwise fun a b => Text.size b ≤ Text.size a := by
  have hsorted : (words.mergeSort before).Pairwise fun a b => before a b = true :=
    List.pairwise_mergeSort (fun a b c => @before_trans a b c)
      (fun a b => Bool.or_eq_true_iff.mpr (before_total a b)) words
  refine (hsorted.sublist (dedup_sublist _)).imp fun hbefore => ?_
  rcases before_iff.mp hbefore with hlt | ⟨heq, -⟩
  · exact Nat.le_of_lt hlt
  · exact Nat.le_of_eq heq.symm

end Order

-- The words in the order in which they are tried. If there are none, an empty one is tried.
def tried (list : List String) : List Text :=
  if list = [] then [[]] else arrange (list.map String.toList)

theorem mem_tried {list : List String} {word : Text} :
    word ∈ tried list ↔ (∃ listed ∈ list, listed.toList = word) ∨ list = [] ∧ word = [] := by
  rw [tried]
  split
  case isTrue h => simp [h]
  case isFalse h => rw [mem_arrange, List.mem_map]; simp [h]

theorem tried_ne_nil (list : List String) : tried list ≠ [] := by
  have hmem : ∃ word, word ∈ tried list := by
    cases list with
    | nil => exact ⟨[], mem_tried.mpr (.inr ⟨rfl, rfl⟩)⟩
    | cons word list => exact ⟨word.toList, mem_tried.mpr (.inl ⟨word, List.mem_cons_self, rfl⟩)⟩
  obtain ⟨word, hmem⟩ := hmem
  exact List.ne_nil_of_mem hmem

theorem tried_sizes (list : List String) :
    (tried list).Pairwise fun a b => Text.size b ≤ Text.size a := by
  rw [tried]
  split
  case isTrue => exact List.pairwise_singleton ..
  case isFalse => exact arrange_sizes _

-- Of two words the one with more bytes is tried first, wherever it stands in the list.
theorem tried_pair {shorter longer : String}
    (hlt : Text.size shorter.toList < Text.size longer.toList) :
    tried [shorter, longer] = [longer.toList, shorter.toList] := by
  have hbefore : before shorter.toList longer.toList = false := by
    rw [before, if_neg hlt.ne, decide_eq_false hlt.not_gt]
  have hne : longer.toList ≠ shorter.toList := fun heq => hlt.ne (congrArg Text.size heq.symm)
  have hsorted : [shorter.toList, longer.toList].mergeSort before =
      [longer.toList, shorter.toList] := by
    simp [List.mergeSort, List.MergeSort.Internal.splitInTwo, hbefore]
  simp [tried, arrange, hsorted, dedup, hne]

theorem words_eq (list : List String) :
    StackLexer.words list "" "" = String.ofList (pattern (tried list)) := by
  have harranged : pattern (arrange (list.map String.toList)) = pattern (tried list) := by
    rw [tried]
    split
    case isTrue h => simp [h, arrange, dedup, pattern, escape]
    case isFalse => rfl
  rw [← harranged, ← String.toList_inj, String.toList_ofList, StackLexer.words]
  simp [pattern]

section Match

variable {list : List String} {flags : MatchFlags} {pattern : Pattern}

-- The first word that stands for a start of the text has as many bytes as any that does.
theorem first_stretch {text part : Text}
    (h : (tried list).findSome? (stretch? flags · text) = some part) :
    ∃ word ∈ tried list, Stands flags word part ∧ part <+: text ∧
      ∀ other ∈ tried list, ∀ part', Stands flags other part' → part' <+: text →
        Text.size other ≤ Text.size word := by
  obtain ⟨front, word, back, htried, hword, hnone⟩ := List.findSome?_eq_some_iff.mp h
  obtain ⟨hstands, hlead⟩ := stretch?_eq_some.mp hword
  have hmem : word ∈ tried list := by simp [htried]
  refine ⟨word, hmem, hstands, hlead, fun other hother part' hstands' hlead' => ?_⟩
  have hsizes := tried_sizes list
  rw [htried] at hother hsizes
  rcases List.mem_append.mp hother with hfront | hback
  · have hsome := stretch?_eq_some.mpr ⟨hstands', hlead'⟩
    rw [hnone other hfront] at hsome
    contradiction
  · rcases List.mem_cons.mp hback with rfl | hback
    · exact Nat.le_refl _
    · exact (List.pairwise_cons.mp (List.pairwise_append.mp hsizes).2.1).1 other hback

theorem exists_first {text part : Text} {word : Text} (hmem : word ∈ tried list)
    (hstands : Stands flags word part) (hlead : part <+: text) :
    ∃ first, (tried list).findSome? (stretch? flags · text) = some first := by
  refine Option.isSome_iff_exists.mp (List.findSome?_isSome_iff.mpr ⟨word, hmem, ?_⟩)
  exact Option.isSome_iff_exists.mpr ⟨part, stretch?_eq_some.mpr ⟨hstands, hlead⟩⟩

variable (hcompile : Pattern.compile (StackLexer.words list "" "") flags = .ok pattern)
include hcompile

-- The match is the start of the text that the first of the words stands for.
theorem matchText_words {text : Text} {offset : Nat} {place : Place}
    (hplace : text.place? offset = some place) :
    (pattern.matchText text offset).map Match.span =
      ((tried list).findSome? (stretch? flags · place.after)).map fun part =>
        ⟨offset, offset + Text.size part⟩ := by
  rw [words_eq] at hcompile
  have hmatch := matchAt_pattern (tried_ne_nil list) hcompile place
  rw [Text.place?_offset hplace] at hmatch
  rw [Pattern.matchText, hplace]
  exact hmatch

theorem matchEnd_words (before after : Text) :
    pattern.matchEnd (before ++ after) (Text.size before) =
      ((tried list).findSome? (stretch? flags · after)).map (Text.size before + Text.size ·) := by
  have hspan := matchText_words hcompile (Text.place?_append before after)
  have hstop := congrArg (Option.map Span.stop) hspan
  rwa [Option.map_map, Option.map_map] at hstop

end Match

section Stands

variable {flags : MatchFlags}

theorem agrees_equivalence (flags : MatchFlags) :
    Equivalence fun c d => flags.agrees c d = true := by
  cases hcase : flags.caseInsensitive with
  | false =>
      simp only [MatchFlags.agrees, hcase, Bool.false_eq_true, if_false, beq_iff_eq]
      exact eq_equivalence
  | true =>
      simp only [MatchFlags.agrees, hcase, if_true]
      exact equalUpToCase_equivalence

theorem Stands.refl (flags : MatchFlags) (word : Text) : Stands flags word word :=
  List.forall₂_same.mpr fun c _ => (agrees_equivalence flags).refl c

theorem Stands.symm {word text : Text} (h : Stands flags word text) : Stands flags text word :=
  .flip (h.imp fun _ _ => (agrees_equivalence flags).symm)

-- Words that stand for the same text stand for each other, as far as they go.
theorem Stands.of_prefix {word other part text : Text} (h : Stands flags word part)
    (h' : Stands flags other text) (hlead : part <+: text) :
    ∃ start, Stands flags word start ∧ start <+: other := by
  unfold Stands at h
  induction h generalizing other text with
  | nil => exact ⟨[], .nil, List.nil_prefix⟩
  | @cons c d word part hcd _ ih =>
      cases h' with
      | nil => simp at hlead
      | @cons e d' other text hed hrest =>
          obtain ⟨rfl, hmore⟩ := List.cons_prefix_cons.mp hlead
          obtain ⟨start, hstart, hbegins⟩ := ih hrest hmore
          have hagrees := (agrees_equivalence flags).trans hcd ((agrees_equivalence flags).symm hed)
          exact ⟨e :: start, .cons hagrees hstart, List.cons_prefix_cons.mpr ⟨rfl, hbegins⟩⟩

theorem Stands.size_eq {word text : Text} (h : Stands flags word text)
    (hsizes : ∀ c ∈ word, ∀ d, flags.agrees c d = true → d.utf8Size = c.utf8Size) :
    Text.size text = Text.size word := by
  unfold Stands at h
  induction h with
  | nil => rfl
  | @cons c d word text hcd _ ih =>
      obtain ⟨hc, hword⟩ := List.forall_mem_cons.mp hsizes
      rw [Text.size_cons, Text.size_cons, hc d hcd, ih hword]

end Stands

-- A listed word stands for the start of the text.
def Stretch (flags : MatchFlags) (list : List String) (text part : Text) : Prop :=
  part <+: text ∧ ∃ word ∈ list, Stands flags word.toList part

-- Where listed words stand for starts of the text, the pattern matches the longest of these.
def KeepsLongest (flags : MatchFlags) (list : List String) (pattern : Pattern) : Prop :=
  ∀ before after, (∃ part, Stretch flags list after part) →
    ∃ longest, Stretch flags list after longest ∧
      (∀ part, Stretch flags list after part → part <+: longest) ∧
      pattern.matchEnd (before ++ after) (Text.size before) =
        some (Text.size before + Text.size longest)

-- If two functions find something in a list, the first element where either does is the one where
-- the other does, or else that one finds nothing there.
theorem findSome?_meet {α β : Type} {f g : α → Option β} {xs : List α} {b c : β}
    (hf : xs.findSome? f = some b) (hg : xs.findSome? g = some c) :
    ∃ x ∈ xs, ∃ y ∈ xs, f x = some b ∧ g y = some c ∧ (x = y ∨ g x = none ∨ f y = none) := by
  induction xs with
  | nil => contradiction
  | cons x xs ih =>
      rw [List.findSome?_cons] at hf hg
      cases hfx : f x with
      | some b' =>
          rw [hfx] at hf
          obtain rfl := Option.some.inj hf
          cases hgx : g x with
          | some c' =>
              rw [hgx] at hg
              obtain rfl := Option.some.inj hg
              exact ⟨x, List.mem_cons_self, x, List.mem_cons_self, hfx, hgx, .inl rfl⟩
          | none =>
              rw [hgx] at hg
              obtain ⟨y, hy, hgy⟩ := List.exists_of_findSome?_eq_some hg
              exact ⟨x, List.mem_cons_self, y, List.mem_cons_of_mem x hy, hfx, hgy, .inr (.inl hgx)⟩
      | none =>
          rw [hfx] at hf
          cases hgx : g x with
          | some c' =>
              rw [hgx] at hg
              obtain rfl := Option.some.inj hg
              obtain ⟨y, hy, hfy⟩ := List.exists_of_findSome?_eq_some hf
              exact ⟨y, List.mem_cons_of_mem x hy, x, List.mem_cons_self, hfy, hgx, .inr (.inr hfx)⟩
          | none =>
              rw [hgx] at hg
              obtain ⟨y, hy, z, hz, hmeet⟩ := ih hf hg
              exact ⟨y, List.mem_cons_of_mem x hy, z, List.mem_cons_of_mem x hz, hmeet⟩

end Words

open Words

section Longest

variable {list : List String} {flags : MatchFlags} {pattern : Pattern}

-- Where a listed word begins the rest of a text, the match is the longest of those that do: all
-- others begin that one.
theorem longest_word_matched (hcase : flags.caseInsensitive = false)
    (hcompile : Pattern.compile (words list "" "") flags = .ok pattern) (before after : Text)
    (hlisted : ∃ word ∈ list, word.toList <+: after) :
    ∃ longest ∈ list, longest.toList <+: after ∧
      (∀ word ∈ list, word.toList <+: after → word.toList <+: longest.toList) ∧
      pattern.matchEnd (before ++ after) (Text.size before) =
        some (Text.size before + Text.size longest.toList) := by
  have hstands : ∀ {word part : Text}, Stands flags word part ↔ word = part := by
    intro word part
    simp [Stands, MatchFlags.agrees, hcase]
  obtain ⟨word, hword, hlead⟩ := hlisted
  obtain ⟨part, hfirst⟩ :=
    exists_first (mem_tried.mpr (.inl ⟨word, hword, rfl⟩)) (hstands.mpr rfl) hlead
  obtain ⟨_, hmem, hpart, hbegins, hsizes⟩ := first_stretch hfirst
  obtain rfl := hstands.mp hpart
  rcases mem_tried.mp hmem with ⟨longest, hlongest, rfl⟩ | ⟨rfl, -⟩
  · refine ⟨longest, hlongest, hbegins, fun other hother hlead' => ?_, ?_⟩
    · have hle := hsizes _ (mem_tried.mpr (.inl ⟨other, hother, rfl⟩)) _ (hstands.mpr rfl) hlead'
      exact Text.prefix_of_size_le hlead' hbegins hle
    · rw [matchEnd_words hcompile, hfirst, Option.map_some]
  · contradiction

theorem longest_word_integer :
    ∃ pattern, Pattern.compile (words ["in", "int"] "" "") .none = .ok pattern ∧
      pattern.matchEnd "an integer".toList 3 = some 6 := by
  obtain ⟨pattern, hcompile⟩ : ∃ pattern,
      Pattern.compile (words ["in", "int"] "" "") .none = .ok pattern := by
    rw [words_eq, tried_pair (by decide)]
    exact exists_ok (by decide +kernel)
  have hlisted : ∃ word ∈ ["in", "int"], word.toList <+: "integer".toList :=
    ⟨"int", by simp, by decide⟩
  obtain ⟨longest, hmem, -, hmax, hmatch⟩ :=
    longest_word_matched rfl hcompile "an ".toList "integer".toList hlisted
  refine ⟨pattern, hcompile, hmatch.trans ?_⟩
  have hint := hmax "int" (by simp) (by decide)
  rcases List.mem_pair.mp hmem with rfl | rfl
  · exact absurd hint (by decide)
  · rfl

end Longest

section Listed

variable {list : List String} {flags : MatchFlags} {pattern : Pattern}

-- What is matched stands for a listed word. Only where no word is listed it does not: then it is
-- the empty text, at every place.
theorem matched_text_listed (hcompile : Pattern.compile (words list "" "") flags = .ok pattern) :
    (∀ (text : Text) (offset : Nat) (found : Match), pattern.matchText text offset = some found →
      ∃ part, text.slice? found.span = some part ∧
        ((∃ word ∈ list, Stands flags word.toList part) ∨ list = [] ∧ part = [])) ∧
    (list = [] → ∀ (text : Text) (offset : Nat), text.isBoundary offset = true →
      pattern.matchEnd text offset = some offset) := by
  constructor
  · intro text offset found hfound
    obtain ⟨place, hplace, -⟩ := Option.bind_eq_some_iff.mp hfound
    have hspan := matchText_words hcompile hplace
    rw [hfound, Option.map_some, eq_comm, Option.map_eq_some_iff] at hspan
    obtain ⟨part, hfirst, hspan⟩ := hspan
    obtain ⟨word, hmem, hstands, ⟨rest, hrest⟩, -⟩ := first_stretch hfirst
    obtain ⟨before, htext, rfl, -⟩ := Text.place?_eq_some hplace
    refine ⟨part, ?_, ?_⟩
    · rw [← hspan, htext, ← hrest, ← List.append_assoc]
      exact Text.slice?_append before part rest
    · rcases mem_tried.mp hmem with ⟨listed, hlisted, rfl⟩ | ⟨hempty, rfl⟩
      · exact .inl ⟨listed, hlisted, hstands⟩
      · exact .inr ⟨hempty, List.forall₂_nil_left_iff.mp hstands⟩
  · rintro rfl text offset hboundary
    obtain ⟨before, after, rfl, rfl⟩ := Text.isBoundary_iff.mp hboundary
    rw [matchEnd_words hcompile]
    rfl

-- Without words, something is matched that no word stands for.
theorem empty_list_matches :
    ∃ pattern, Pattern.compile (words [] "" "") .none = .ok pattern ∧
      pattern.matchEnd "x".toList 0 = some 0 := by
  obtain ⟨pattern, hcompile⟩ := exists_ok
    (show (Pattern.compile (words [] "" "") .none).toBool = true by decide +kernel)
  exact ⟨pattern, hcompile, (matched_text_listed hcompile).2 rfl "x".toList 0 rfl⟩

end Listed

section Kept

variable {list : List String} {flags : MatchFlags} {pattern : Pattern}

-- The longest of the words is matched at all places if each of them is matched whole where the
-- text is that word.
theorem longest_kept_iff (hcompile : Pattern.compile (words list "" "") flags = .ok pattern) :
    KeepsLongest flags list pattern ↔
      ∀ word ∈ list, pattern.matchEnd word.toList 0 = some (Text.size word.toList) := by
  constructor
  · intro hkeeps word hword
    have hself : Stretch flags list word.toList word.toList :=
      ⟨List.prefix_rfl, word, hword, .refl flags _⟩
    obtain ⟨longest, ⟨hlead, -⟩, hmax, hmatch⟩ := hkeeps [] word.toList ⟨_, hself⟩
    obtain rfl := hlead.eq_of_length_le (hmax _ hself).length_le
    simpa using hmatch
  · rintro hwhole before after ⟨part, hlead, word, hword, hstands⟩
    obtain ⟨first, hfirst⟩ := exists_first (mem_tried.mpr (.inl ⟨word, hword, rfl⟩)) hstands hlead
    have hlisted : Stretch flags list after first := by
      obtain ⟨_, hmem, hstands, hlead, -⟩ := first_stretch hfirst
      rcases mem_tried.mp hmem with ⟨listed, hlisted, rfl⟩ | ⟨rfl, -⟩
      · exact ⟨hlead, listed, hlisted, hstands⟩
      · contradiction
    refine ⟨first, hlisted, ?_, by rw [matchEnd_words hcompile, hfirst, Option.map_some]⟩
    rintro part' ⟨hlead', other, hother, hstands'⟩
    -- the first word for the text and the first one for the other word are the same
    have hself : (tried list).findSome? (stretch? flags · other.toList) = some other.toList := by
      have hmatch := (matchEnd_words hcompile [] other.toList).symm.trans (hwhole other hother)
      obtain ⟨whole, hwhole, hsize⟩ := Option.map_eq_some_iff.mp hmatch
      obtain ⟨_, -, -, hbegins, -⟩ := first_stretch hwhole
      rw [Text.size_nil, Nat.zero_add] at hsize
      have hback := Text.prefix_of_size_le List.prefix_rfl hbegins (Nat.le_of_eq hsize.symm)
      rwa [hbegins.eq_of_length_le hback.length_le] at hwhole
    obtain ⟨x, -, y, -, hx, hy, hmeet⟩ := findSome?_meet hfirst hself
    obtain ⟨hxfirst, hbegins⟩ := stretch?_eq_some.mp hx
    obtain ⟨hyother, -⟩ := stretch?_eq_some.mp hy
    rcases List.prefix_or_prefix_of_prefix hlead' hbegins with hle | hle
    · exact hle
    · rcases hmeet with rfl | hnone | hnone
      · have hlength : part'.length ≤ first.length :=
          Nat.le_of_eq <| calc part'.length
            _ = other.toList.length := hstands'.length_eq.symm
            _ = x.length := hyother.length_eq.symm
            _ = first.length := hxfirst.length_eq
        rw [hle.eq_of_length_le hlength]
      · obtain ⟨start, hstart, hother⟩ := hxfirst.of_prefix hstands' hle
        rw [stretch?_eq_some.mpr ⟨hstart, hother⟩] at hnone
        contradiction
      · obtain ⟨start, hstart, hpart⟩ := hyother.of_prefix hstands'.symm List.prefix_rfl
        rw [stretch?_eq_some.mpr ⟨hstart, hpart.trans hlead'⟩] at hnone
        contradiction

-- Flags of a grammar in which case does not count.
def MatchFlags.caseless : MatchFlags := ⟨true, false, false⟩

theorem operators_kept :
    ∃ pattern, Pattern.compile (words ["<", "<="] "" "") .caseless = .ok pattern ∧
      KeepsLongest .caseless ["<", "<="] pattern := by
  have hpattern : words ["<", "<="] "" "" = String.ofList (pattern ["<=".toList, "<".toList]) := by
    rw [words_eq, tried_pair (by decide)]
  obtain ⟨pattern, hcompile, hmatch⟩ : ∃ pattern,
      Pattern.compile (words ["<", "<="] "" "") .caseless = .ok pattern ∧
        (pattern.matchEnd "<".toList 0 == some 1 && pattern.matchEnd "<=".toList 0 == some 2) =
          true := by
    rw [hpattern]
    exact exists_ok_of_any (by decide +kernel)
  rw [Bool.and_eq_true, beq_iff_eq, beq_iff_eq] at hmatch
  refine ⟨pattern, hcompile, (longest_kept_iff hcompile).mpr ?_⟩
  exact List.forall_mem_cons.mpr ⟨hmatch.1, List.forall_mem_singleton.mpr hmatch.2⟩

-- The Kelvin sign has more bytes than two letters, and it stands for the first of them.
theorem kelvin_cuts_short {pattern : Pattern}
    (hcompile : Pattern.compile (words ["ka", "\u212a"] "" "") .caseless = .ok pattern) :
    ¬KeepsLongest .caseless ["ka", "\u212a"] pattern := by
  have hfirst : (tried ["ka", "\u212a"]).findSome? (stretch? .caseless · "ka".toList) =
      some "k".toList := by
    rw [tried_pair (by decide)]
    decide +kernel
  have hmatch := matchEnd_words hcompile [] "ka".toList
  rw [hfirst] at hmatch
  rw [longest_kept_iff hcompile]
  intro hwhole
  have hka : pattern.matchEnd "ka".toList 0 = some 2 := hwhole "ka" List.mem_cons_self
  exact absurd (hka.symm.trans hmatch) (by decide)

-- It is enough that no character of the words has a variant with more or fewer bytes.
theorem longest_kept_of_sizes (hcompile : Pattern.compile (words list "" "") flags = .ok pattern)
    (hsizes : ∀ word ∈ list, ∀ c ∈ word.toList, ∀ d, flags.agrees c d = true →
      d.utf8Size = c.utf8Size) : KeepsLongest flags list pattern := by
  have hvariants : ∀ word ∈ tried list, ∀ c ∈ word, ∀ d, flags.agrees c d = true →
      d.utf8Size = c.utf8Size := by
    intro word hmem
    rcases mem_tried.mp hmem with ⟨listed, hlisted, rfl⟩ | ⟨-, rfl⟩
    · exact hsizes listed hlisted
    · simp
  rw [longest_kept_iff hcompile]
  intro word hword
  have hmem : word.toList ∈ tried list := mem_tried.mpr (.inl ⟨word, hword, rfl⟩)
  obtain ⟨part, hfirst⟩ := exists_first hmem (.refl flags _) List.prefix_rfl
  obtain ⟨_, hother, hstands, hlead, hmost⟩ := first_stretch hfirst
  have hle := hmost _ hmem _ (.refl flags _) List.prefix_rfl
  have hpart : Text.size part = Text.size word.toList := by
    have hsame := hstands.size_eq (hvariants _ hother)
    have hback := Text.size_le_of_prefix hlead
    omega
  have hmatch := matchEnd_words hcompile [] word.toList
  rw [hfirst, Option.map_some, hpart, Text.size_nil, Nat.zero_add] at hmatch
  exact hmatch

end Kept

end StackLexer
