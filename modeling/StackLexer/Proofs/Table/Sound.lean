import StackLexer.Proofs.Table.Construction

namespace StackLexer

-- The operation pushes no state but the first `count` of its table.
def Op.Within (count : Nat) : Op → Prop
  | .push state => state < count
  | _ => True

-- A rule of a table with `count` states.
structure Rule.Sound (flags : MatchFlags) (count : Nat) (rule : Rule) : Prop where
  pattern : Pattern.compile rule.pattern.source flags = .ok rule.pattern
  ops : ∀ op ∈ rule.ops, op.Within count
  productive : rule.ops = [] → rule.pattern.matchesEmpty = false

structure Table.Sound (table : Table) : Prop where
  root : table.root < table.states.length
  rules : ∀ state ∈ table.states, ∀ rule ∈ state.rules,
    rule.Sound table.flags table.states.length

-- A name of a set leads to one of its tables, and the rules of a table push no states but those of
-- that table.
structure TableSet.Sound (set : TableSet) : Prop where
  tables : ∀ table ∈ set.tables, table.Sound
  index : ∀ name id, set.id? name = some id → id < set.tables.length

theorem Pattern.source_of_compile {source : String} {flags : MatchFlags} {pattern : Pattern}
    (h : compile source flags = .ok pattern) : pattern.source = source := by
  unfold compile at h
  split at h
  · contradiction
  · split at h
    · contradiction
    · obtain rfl := Except.ok.inj h
      rfl

namespace Grammar

variable {grammar : Grammar} {id : TableId}

theorem OpAs.within {stackOp : StackOp} {op : Op} (h : grammar.OpAs stackOp op) :
    op.Within grammar.states.length := by
  cases h with
  | push hnumber => exact hnumber.lt
  | pushCurrent => trivial
  | pop hcount => trivial

theorem RuleAs.sound {origin : StateId} {place : Nat} {decl : RuleDecl} {rule : Rule}
    (h : grammar.RuleAs id origin place decl rule) :
    rule.Sound grammar.flags grammar.states.length where
  pattern := by
    rw [Pattern.source_of_compile h.pattern]
    exact h.pattern
  ops op hop := by
    obtain ⟨i, hi, rfl⟩ := List.getElem_of_mem hop
    have hlength := h.ops.length_eq
    exact (h.ops.get (hlength ▸ hi) hi).within
  productive := h.moves

theorem TableAs.sound {table : Table} (h : grammar.TableAs id table) : table.Sound := by
  constructor
  · rw [h.states_length]
    exact h.root.lt
  · intro state hstate rule hrule
    obtain ⟨place, decl, -, hcompiled⟩ := h.rules state hstate rule hrule
    rw [h.states_length, h.flags]
    exact hcompiled.sound

end Grammar

theorem Table.sound_of_compile {grammar : Grammar} {id : TableId} {table : Table}
    (h : grammar.compile id = .ok table) : table.Sound :=
  ((grammar.compile_settles id).of_ok h).sound

namespace TableSet

theorem BuiltAs.sound {grammars : List Grammar} {set : TableSet} (h : BuiltAs grammars set) :
    set.Sound where
  tables table hmem := by
    obtain ⟨id, hid⟩ := List.mem_iff_getElem?.mp hmem
    obtain ⟨grammar, -, has⟩ := h.grammar hid
    exact has.sound
  index name id hid := by
    obtain ⟨_, _, -, -, htable, -⟩ := h.of_id? hid
    exact (List.getElem?_eq_some_iff.mp htable).1

-- A set that was built has what a scan relies on.
theorem sound_of_build {grammars : List Grammar} {options : Options} {set : TableSet}
    (h : build grammars options = .ok set) : set.Sound :=
  ((build_settles grammars options).of_ok h).1.sound

theorem options_of_build {grammars : List Grammar} {options : Options} {set : TableSet}
    (h : build grammars options = .ok set) : set.options = options := by
  obtain ⟨index, -, h⟩ := bind_eq_ok.mp h
  obtain ⟨tables, -, h⟩ := bind_eq_ok.mp h
  obtain ⟨-, -, h⟩ := bind_eq_ok.mp h
  obtain rfl := pure_eq_ok.mp h
  rfl

-- Construction does not look at the options.
theorem build_with {grammars : List Grammar} {options : Options} {set : TableSet}
    (h : build grammars options = .ok set) (options' : Options) :
    build grammars options' = .ok { set with options := options' } := by
  obtain ⟨index, hindex, h⟩ := bind_eq_ok.mp h
  obtain ⟨tables, htables, h⟩ := bind_eq_ok.mp h
  obtain ⟨checked, hchecked, h⟩ := bind_eq_ok.mp h
  obtain rfl := pure_eq_ok.mp h
  apply bind_eq_ok.mpr
  refine ⟨index, hindex, bind_eq_ok.mpr ⟨tables, htables, bind_eq_ok.mpr ⟨checked, ?_, rfl⟩⟩⟩
  exact hchecked

namespace Sound

variable {set : TableSet}

theorem table_of_lt (hset : set.Sound) {id : TableId} (h : id < set.tables.length) :
    ∃ table, set.table? id = some table ∧ table.Sound :=
  ⟨set.tables[id], List.getElem?_eq_getElem h, hset.tables _ (List.getElem_mem h)⟩

theorem of_table? (hset : set.Sound) {id : TableId} {table : Table}
    (h : set.table? id = some table) : table.Sound :=
  hset.tables table (List.mem_of_getElem? h)

theorem named?_lt (hset : set.Sound) {current id : TableId} {name : LexerName}
    (hcurrent : current < set.tables.length) (h : set.named? current name = some id) :
    id < set.tables.length := by
  cases name with
  | this =>
      obtain rfl := Option.some.inj h
      exact hcurrent
  | named name => exact hset.index name id h

-- Where a delegation leads there is a table, and its state is one of that table.
theorem lookup? (hset : set.Sound) {current : TableId} {delegation : Delegation} {target : Target}
    (hcurrent : current < set.tables.length)
    (h : set.lookup? current delegation = some target) :
    ∃ table, set.table? target.table = some table ∧
      ∀ state ∈ target.state?, state < table.states.length := by
  obtain ⟨id, hid, h⟩ := Option.bind_eq_some_iff.mp h
  obtain ⟨table, htable, -⟩ := hset.table_of_lt (hset.named?_lt hcurrent hid)
  split at h
  case h_1 =>
    obtain rfl := Option.some.inj h
    exact ⟨table, htable, by simp⟩
  case h_2 name hname =>
    obtain ⟨table', htable', h⟩ := Option.bind_eq_some_iff.mp h
    obtain ⟨state, hstate, h⟩ := Option.bind_eq_some_iff.mp h
    obtain rfl := Option.some.inj h
    obtain ⟨hlt, -⟩ := List.findIdx?_eq_some_iff_getElem.mp hstate
    exact ⟨table', htable', by simpa using hlt⟩

end Sound

end TableSet

end StackLexer
