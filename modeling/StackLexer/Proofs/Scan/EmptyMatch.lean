import StackLexer.Proofs.Regex.MinSize
import StackLexer.Proofs.Scan.Calls

namespace StackLexer

namespace Pattern

-- The source has a part that can never match.
def HasVoid (source : String) (flags : MatchFlags) : Prop :=
  ∃ expr, expr? source.toList flags = some expr ∧ expr.hasVoid = true

variable {source : String} {flags : MatchFlags} {pattern : Pattern}

theorem eq_ofExpr (h : compile source flags = .ok pattern) :
    ∃ expr, expr? source.toList flags = some expr ∧ pattern = ofExpr source expr := by
  unfold compile at h
  split at h
  case h_1 => contradiction
  case h_2 expr hexpr =>
    split at h
    · contradiction
    · exact ⟨expr, hexpr, (Except.ok.inj h).symm⟩

theorem minSize?_eq_none (h : compile source flags = .ok pattern) :
    pattern.minSize? = none ↔ HasVoid source flags := by
  obtain ⟨expr, hexpr, rfl⟩ := eq_ofExpr h
  rw [HasVoid, hexpr]
  simpa [ofExpr] using expr.minSize?_eq_none

-- A match takes up at least as much text as the pattern promises.
theorem minSize?_le (h : compile source flags = .ok pattern) {k : Nat}
    (hsize : pattern.minSize? = some k) {text : Text} {offset stop : Nat}
    (hmatch : pattern.matchEnd text offset = some stop) : offset + k ≤ stop := by
  obtain ⟨expr, -, rfl⟩ := eq_ofExpr h
  obtain ⟨found, hfound, rfl⟩ := Option.map_eq_some_iff.mp hmatch
  obtain ⟨place, hplace, hfound⟩ := Option.bind_eq_some_iff.mp hfound
  obtain ⟨hit, hsearch, rfl⟩ := Option.map_eq_some_iff.mp hfound
  have hle := Regex.Program.search_minSize hsize hsearch
  rwa [Text.place?_offset hplace] at hle

-- Where a pattern matches no text, it is known for that just if all of its parts can match.
theorem matchesEmpty_iff (h : compile source flags = .ok pattern) {text : Text} {offset : Nat}
    (hmatch : pattern.matchEnd text offset = some offset) :
    pattern.matchesEmpty = false ↔ HasVoid source flags := by
  rw [← minSize?_eq_none h, matchesEmpty]
  cases hsize : pattern.minSize? with
  | none => simp
  | some k =>
      have hle := minSize?_le h hsize hmatch
      obtain rfl : k = 0 := by omega
      simp

end Pattern

-- A rule that leaves the stack alone was let through because its least size is not zero.
theorem Rule.Sound.hasVoid {flags : MatchFlags} {count : Nat} {rule : Rule}
    (h : rule.Sound flags count) (hops : rule.ops = []) {text : Text} {offset : Nat}
    (hmatch : rule.pattern.matchEnd text offset = some offset) :
    Pattern.HasVoid rule.pattern.source flags :=
  (Pattern.matchesEmpty_iff h.pattern hmatch).mp (h.productive hops)

namespace Stream

-- The rule has a transition, or a part that can never match.
theorem Taken.hasVoid {set : TableSet} (hset : set.Sound) {scan : Scan} {rule : Rule}
    (h : Taken set (.step scan (some rule)))
    (hmatch : rule.pattern.matchEnd scan.input scan.cursor = some scan.cursor) :
    rule.ops ≠ [] ∨ ∃ table, set.table? scan.table = some table ∧
      Pattern.HasVoid rule.pattern.source table.flags := by
  obtain ⟨-, -, state, found, hfaces⟩ := h.winner
  obtain ⟨table, htable, hstate, hrule⟩ := hfaces.rule_mem
  have hsound := (hset.of_table? htable).rules state hstate rule hrule
  by_cases hops : rule.ops = []
  · exact .inr ⟨table, htable, hsound.hasVoid hops hmatch⟩
  · exact .inl hops

end Stream

namespace Grammar

theorem flags_of_compile {grammar : Grammar} {id : TableId} {table : Table}
    (h : grammar.compile id = .ok table) : table.flags = grammar.flags := by
  unfold compile at h
  split at h
  · contradiction
  · obtain ⟨declared, -, h⟩ := bind_eq_ok.mp h
    obtain ⟨states, -, h⟩ := bind_eq_ok.mp h
    obtain rfl := pure_eq_ok.mp h
    rfl

-- A rule without a transition, in order otherwise, is let through unless it is known to match no
-- text.
theorem compileRule_ok_iff {grammar : Grammar} {decl : RuleDecl} {pattern : Pattern}
    {state : String} (hpattern : Pattern.compile decl.pattern grammar.flags = .ok pattern)
    (hops : decl.transition.ops = []) (hgroups : grammar.checkGroups state decl pattern = .ok ())
    (table : TableId) (origin : StateId) (entry : Nat) :
    (∃ rule, grammar.compileRule table state origin entry decl = .ok rule) ↔
      pattern.matchesEmpty = false := by
  have hcompiled : grammar.compilePattern state decl.pattern = .ok pattern := by
    rw [compilePattern, hpattern]
  simp only [compileRule, hcompiled, hops, List.mapM_nil, bind, Except.bind, pure, Except.pure,
    hgroups, List.isEmpty_nil, Bool.true_and]
  cases pattern.matchesEmpty with
  | true => simp
  | false => simp

end Grammar

-- A pattern that can match no text is known to do so, unless a part of it can never match: then it
-- has no least size, and is taken for one that always matches some text. Rules without a transition
-- match no text only through such patterns, in every table and in every run.
theorem empty_match_hasVoid (grammar : Grammar) :
    (∀ source pattern, Pattern.compile source grammar.flags = .ok pattern →
      ∀ text offset, pattern.matchEnd text offset = some offset →
        (pattern.matchesEmpty = false ↔ Pattern.HasVoid source grammar.flags)) ∧
    (∀ state decl pattern, Pattern.compile decl.pattern grammar.flags = .ok pattern →
      decl.transition.ops = [] → grammar.checkGroups state decl pattern = .ok () →
        ∀ text offset, pattern.matchEnd text offset = some offset → ∀ table origin entry,
          ((∃ rule, grammar.compileRule table state origin entry decl = .ok rule) ↔
            Pattern.HasVoid decl.pattern grammar.flags)) ∧
    (∀ id table, grammar.compile id = .ok table →
      ∀ state ∈ table.states, ∀ rule ∈ state.rules, rule.ops = [] →
        ∀ text offset, rule.pattern.matchEnd text offset = some offset →
          Pattern.HasVoid rule.pattern.source grammar.flags) ∧
    (∀ grammars options set, TableSet.build grammars options = .ok set →
      ∀ lexer table, set.table? lexer = some table →
        ∀ state? : Option StateId, (∀ state ∈ state?, state < table.states.length) →
          ∀ text base depth count, ∃ answers stream log,
            (Stream.calls set set.tracer count
              (.ofScan (.fresh lexer table.root state? text base depth))).run.run [] =
                (.ok (answers, stream), log) ∧
            ∀ scan rule, .step scan (some rule) ∈ log →
              rule.pattern.matchEnd scan.input scan.cursor = some scan.cursor →
                rule.ops ≠ [] ∨ ∃ table, set.table? scan.table = some table ∧
                  Pattern.HasVoid rule.pattern.source table.flags) := by
  refine ⟨?_, ?_, ?_, ?_⟩
  · intro source pattern hcompile text offset hmatch
    exact Pattern.matchesEmpty_iff hcompile hmatch
  · intro state decl pattern hpattern hops hgroups text offset hmatch table origin entry
    rw [Grammar.compileRule_ok_iff hpattern hops hgroups]
    exact Pattern.matchesEmpty_iff hpattern hmatch
  · intro id table hcompile state hstate rule hrule hops text offset hmatch
    have hsound := (Table.sound_of_compile hcompile).rules state hstate rule hrule
    rw [← Grammar.flags_of_compile hcompile]
    exact hsound.hasVoid hops hmatch
  · intro grammars options set hbuild lexer table htable state? hstate text base depth count
    have hset := TableSet.sound_of_build hbuild
    have hfresh := Scan.fresh_sound hset htable hstate text base depth
    obtain ⟨answers, stream, events, -, hcalls, hrun⟩ :=
      Stream.calls_ok hset (Stream.ofScan_sound hfresh rfl) count
    refine ⟨answers, stream, [] ++ events, hrun set.tracerReading [], fun scan rule hmem => ?_⟩
    exact (hcalls.taken hset (Stream.ofScan_sound hfresh rfl) _ hmem).hasVoid hset

-- A rule that stays where it is for good, since its class has no members.
def Grammar.hollow : Grammar :=
  (Grammar.new "hollow").setState "root" [.rule ⟨"[a&&b]*", .token .text, ⟨[]⟩⟩]

theorem Grammar.hollow_compiles :
    ∃ table, hollow.compile 0 = .ok table ∧ ∃ state ∈ table.states, ∃ rule ∈ state.rules,
      rule.ops = [] ∧ rule.pattern.matchEnd "x".toList 0 = some 0 := by
  have hcompiles : ((hollow.compile 0).toOption.any fun table => table.states.any fun state =>
      state.rules.any fun rule => rule.ops.isEmpty &&
        rule.pattern.matchEnd "x".toList 0 == some 0) = true := by
    decide +kernel
  obtain ⟨table, htable, hrules⟩ := exists_ok_of_any hcompiles
  simp only [List.any_eq_true, Bool.and_eq_true, List.isEmpty_iff, beq_iff_eq] at hrules
  exact ⟨table, htable, hrules⟩

theorem hollow_hasVoid :
    ∃ table, Grammar.hollow.compile 0 = .ok table ∧ ∃ state ∈ table.states, ∃ rule ∈ state.rules,
      rule.ops = [] ∧ rule.pattern.matchEnd "x".toList 0 = some 0 ∧
        Pattern.HasVoid rule.pattern.source Grammar.hollow.flags := by
  obtain ⟨table, htable, state, hstate, rule, hrule, hops, hmatch⟩ := Grammar.hollow_compiles
  exact ⟨table, htable, state, hstate, rule, hrule, hops, hmatch,
    (empty_match_hasVoid .hollow).2.2.1 _ _ htable _ hstate _ hrule hops _ _ hmatch⟩

end StackLexer
