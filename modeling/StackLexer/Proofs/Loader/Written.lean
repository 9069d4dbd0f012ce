import StackLexer.Proofs.Loader.Gives
import StackLexer.Proofs.Loader.Image
import StackLexer.Proofs.Table.Construction

namespace StackLexer

open Json (Data)

-- A name that may be left out.
def optionalData : Option String → Data
  | none => .null
  | some name => .string name

def Transition.data (transition : Transition) : Data :=
  .list ((transition.ops.map StackOp.print).map .string)

def Delegation.fields (delegation : Delegation) : List (String × Data) :=
  [("using", .string delegation.target.text), ("state", optionalData delegation.state?)]

def Part.data : Part Delegation → Data
  | .kind value => .string value.dottedName
  | .delegate delegation => .record delegation.fields

def Action.fields : Action Delegation → List (String × Data)
  | .token kind => [("token", .string kind.dottedName)]
  | .groups parts => [("groups", .list (parts.map Part.data))]
  | .delegate delegation => delegation.fields
  | .callback _ => []

def RuleDecl.fields (decl : RuleDecl) : List (String × Data) :=
  ("match", .string decl.pattern) :: ("next", decl.transition.data) :: decl.action.fields

def Entry.data : Entry → Data
  | .rule decl => .record decl.fields
  | .include state => .record [("include", .string state)]
  | .default transition => .record [("default", transition.data)]

def MatchFlags.data (flags : MatchFlags) : Data :=
  .record [("case_insensitive", .flag flags.caseInsensitive),
    ("multiline_anchors", .flag flags.multilineAnchors),
    ("dot_matches_newline", .flag flags.dotMatchesNewline)]

def statesData (states : List (String × List Entry)) : Data :=
  .record (states.map fun state => (state.1, .list (state.2.map Entry.data)))

-- A document for a grammar. Every field is written, and a transition is written as a list, so that
-- the empty one has a form as well.
def Grammar.data (grammar : Grammar) : Data :=
  .record [("name", .string grammar.name), ("aliases", .list (grammar.aliases.map .string)),
    ("flags", grammar.flags.data), ("states", statesData grammar.states)]

namespace Grammar

-- The grammar as a text of JSON.
def json (grammar : Grammar) : Text := grammar.data.write

-- The grammar before any of its states is set.
def stateless (grammar : Grammar) : Grammar :=
  { new grammar.name with aliases := grammar.aliases, flags := grammar.flags }

-- States set one after another.
def setStates (grammar : Grammar) (states : List (String × List Entry)) : Grammar :=
  states.foldl (fun grammar state => grammar.setState state.1 state.2) grammar

-- A state whose name comes after all others is put at the end.
theorem insertState_append {name : String} {states : List (String × List Entry)}
    (entries : List Entry) (h : ∀ state ∈ states, state.1 < name) :
    insertState name entries states = states ++ [(name, entries)] := by
  induction states with
  | nil => rfl
  | cons first states ih =>
    obtain ⟨hlt, hrest⟩ := List.forall_mem_cons.mp h
    have hne : name ≠ first.1 := fun heq => String.lt_irrefl name (heq ▸ hlt)
    rw [insertState, if_neg hne, if_neg (String.lt_asymm hlt), ih hrest]
    rfl

theorem setStates_eq (grammar : Grammar) {states : List (String × List Entry)}
    (horder : ((grammar.states ++ states).map (·.1)).Pairwise (· < ·)) :
    grammar.setStates states =
      { grammar with states := grammar.states ++ states, inOrder := horder } := by
  induction states generalizing grammar with
  | nil => simp [setStates]
  | cons state states ih =>
    have hlast : ∀ earlier ∈ grammar.states, earlier.1 < state.1 := by
      intro earlier hmem
      rw [List.map_append, List.pairwise_append] at horder
      exact horder.2.2 _ (List.mem_map_of_mem hmem) _ (by simp)
    have hput := insertState_append state.2 hlast
    have hrest : (((grammar.setState state.1 state.2).states ++ states).map (·.1)).Pairwise
        (· < ·) := by
      simpa [setState, hput] using horder
    rw [setStates, List.foldl_cons, ← setStates, ih _ hrest]
    simp [setState, hput]

-- The states of a grammar set in their order give the grammar.
theorem setStates_states (grammar : Grammar) :
    grammar.stateless.setStates grammar.states = grammar :=
  setStates_eq grammar.stateless grammar.inOrder

end Grammar

namespace Loader

open Reader

variable {room : Nat}

theorem optionalData_gives (name? : Option String) :
    (readOptional readString (optionalData name?).node).Gives room name? := by
  cases name? with
  | none => exact readOptional_null
  | some name => exact readOptional_some rfl (readString_gives name)

theorem mapM_stringOf? (texts : List String) :
    (Data.itemValues (texts.map .string)).mapM stringOf? = some texts := by
  induction texts with
  | nil => rfl
  | cons text texts ih =>
    rw [List.map_cons, Data.itemValues, List.mapM_cons, ih]
    simp [stringOf?, Data.value]

theorem readTransition_gives {transition : Transition} (h : transition.Writable) :
    (readTransition transition.data.node).Gives (room + 1) transition := by
  have hwithin : transition.data.Within (room + 1) := by
    refine .list fun item hmem => ?_
    obtain ⟨text, -, rfl⟩ := List.mem_map.mp hmem
    exact .string
  unfold readTransition
  refine (readValue_gives hwithin).bind ?_
  rw [Transition.data, Data.value]
  simp only [mapM_stringOf?, Transition.parseAll_print h]
  exact .pure

theorem readKind_gives (kind : Kind) :
    (readKind (Data.string kind.dottedName).node).Gives room kind := by
  unfold readKind
  refine (readString_gives kind.dottedName).bind ?_
  rw [kind.parse_dottedName]
  exact .pure

theorem groupDelegation?_fields {delegation : Delegation} (h : delegation.Writable) :
    groupDelegation? (Data.record delegation.fields).value = some delegation := by
  have htarget : LexerName.ofText delegation.target.text = delegation.target :=
    LexerName.ofText_text h
  have hstate : groupState? (optionalData delegation.state?).value = some delegation.state? := by
    cases delegation.state? with
    | none => rfl
    | some state => simp [optionalData, Data.value, groupState?, stringOf?]
  simp [Delegation.fields, Data.value, Data.fieldValues, groupDelegation?, groupFields?,
    delegationField?, stringOf?, hstate, htarget]

theorem within_optionalData (name? : Option String) : (optionalData name?).Within room := by
  cases name? with
  | none => exact .null
  | some name => exact .string

theorem readGroup_gives {part : Part Delegation} (h : part.Writable) :
    (readGroup part.data.node).Gives (room + 1) part := by
  unfold readGroup
  cases part with
  | kind kind =>
    have hwithin : (Data.string kind.dottedName).Within (room + 1) := .string
    refine (readValue_gives hwithin).bind ?_
    simp only [Data.value, stringOf?, Option.bind_some, String.ofList_toList,
      kind.parse_dottedName, Except.toOption]
    exact .pure
  | delegate delegation =>
    have hwithin : (Data.record delegation.fields).Within (room + 1) := by
      refine .record (List.forall_mem_cons.mpr ⟨.string, List.forall_mem_singleton.mpr ?_⟩)
      exact within_optionalData delegation.state?
    refine (readValue_gives hwithin).bind ?_
    simp only [groupDelegation?_fields h]
    exact .pure

theorem readEntry_of_fills {fields : List (String × Data)} {last : EntryFields} {entry : Entry}
    (hfills : EntryFields.shape.Fills room fields .empty last)
    (hnodup : (fields.map (·.1)).Nodup) (hentry : last.toEntry = .ok entry) :
    (readEntry (Data.record fields).node).Gives (room + 1) entry := by
  unfold readEntry
  refine (Shape.readNode_gives hfills hnodup nofun).bind ?_
  rw [hentry]
  exact .pure

-- The two fields that every rule has.
def ruleFields (pattern : String) (transition : Transition) : EntryFields :=
  { EntryFields.empty with pattern? := some pattern, next? := some transition }

theorem readRule_of_fills {decl : RuleDecl} {last : EntryFields} (h : decl.transition.Writable)
    (hrest : EntryFields.shape.Fills (room + 1) decl.action.fields
      (ruleFields decl.pattern decl.transition) last)
    (hnodup : (decl.fields.map (·.1)).Nodup) (hentry : last.toEntry = .ok (.rule decl)) :
    (readEntry (Data.record decl.fields).node).Gives (room + 2) (.rule decl) := by
  refine readEntry_of_fills ?_ hnodup hentry
  refine .cons rfl ((readOptional_some rfl (readString_gives decl.pattern)).bind .pure) ?_
  exact .cons rfl ((readOptional_some rfl (readTransition_gives h)).bind .pure) hrest

theorem readRule_gives {decl : RuleDecl} (h : decl.Writable) :
    (readEntry (Data.record decl.fields).node).Gives (room + 3) (.rule decl) := by
  obtain ⟨haction, htransition⟩ := h
  obtain ⟨pattern, action, transition⟩ := decl
  cases action with
  | token kind =>
    have hfills : EntryFields.shape.Fills (room + 2) (Action.token kind).fields
        (ruleFields pattern transition)
        { ruleFields pattern transition with token? := some kind } :=
      .cons rfl ((readOptional_some rfl (readKind_gives kind)).bind .pure) .nil
    exact readRule_of_fills htransition hfills (by simp [RuleDecl.fields, Action.fields]) rfl
  | groups parts =>
    have hparts : (readList readGroup (Data.list (parts.map Part.data)).node).Gives (room + 2)
        parts :=
      readList_gives fun part hmem => readGroup_gives (haction part hmem)
    have hfills : EntryFields.shape.Fills (room + 2) (Action.groups parts).fields
        (ruleFields pattern transition)
        { ruleFields pattern transition with groups? := some parts } :=
      .cons rfl ((readOptional_some rfl hparts).bind .pure) .nil
    exact readRule_of_fills htransition hfills (by simp [RuleDecl.fields, Action.fields]) rfl
  | delegate delegation =>
    have htarget := LexerName.ofText_text haction
    have hfills : EntryFields.shape.Fills (room + 2) (Action.delegate delegation).fields
        (ruleFields pattern transition)
        { ruleFields pattern transition with
          using? := some delegation.target.text
          state? := delegation.state? } :=
      .cons rfl ((readOptional_some rfl (readString_gives delegation.target.text)).bind .pure)
        (.cons rfl ((optionalData_gives delegation.state?).bind .pure) .nil)
    refine readRule_of_fills htransition hfills ?_ ?_
    · simp [RuleDecl.fields, Action.fields, Delegation.fields]
    · simp only [EntryFields.toEntry, EntryFields.rule, ruleFields, EntryFields.empty, htarget,
        Option.isNone_some, Bool.and_false]
      rfl
  | callback callback => exact haction.elim

theorem readEntry_gives {entry : Entry} (h : entry.Writable) :
    (readEntry entry.data.node).Gives (room + 3) entry := by
  match entry with
  | .rule decl => exact readRule_gives h
  | .include state =>
    have hfills : EntryFields.shape.Fills (room + 2) [("include", .string state)] .empty
        { EntryFields.empty with includes? := some state } :=
      .cons rfl ((readOptional_some rfl (readString_gives state)).bind .pure) .nil
    exact readEntry_of_fills hfills (by simp) rfl
  | .default transition =>
    have hfills : EntryFields.shape.Fills (room + 2) [("default", transition.data)] .empty
        { EntryFields.empty with default? := some transition } :=
      .cons rfl ((readOptional_some rfl (readTransition_gives h)).bind .pure) .nil
    exact readEntry_of_fills hfills (by simp) rfl

theorem readFlags_gives (flags : MatchFlags) :
    (readFlags flags.data.node).Gives (room + 1) flags := by
  refine Shape.readNode_gives ?_ (by simp) nofun
  refine .cons rfl ((readBool_gives flags.caseInsensitive).bind .pure) ?_
  refine .cons rfl ((readBool_gives flags.multilineAnchors).bind .pure) ?_
  exact .cons rfl ((readBool_gives flags.dotMatchesNewline).bind .pure) .nil

theorem states_add (grammar : Grammar) {states : List (String × List Entry)}
    (h : StatesWritable states) :
    Adds (fun name step value grammar => do
        return Grammar.setState grammar name (← (readList readEntry value).under step))
      (room + 4) (states.map fun state => (state.1, Data.list (state.2.map Entry.data)))
      grammar (grammar.setStates states) := by
  induction states generalizing grammar with
  | nil => exact .nil
  | cons state states ih =>
    obtain ⟨hfirst, hrest⟩ := List.forall_mem_cons.mp h
    have hentries : (readList readEntry (Data.list (state.2.map Entry.data)).node).Gives
        (room + 4) state.2 :=
      readList_gives fun entry hmem => readEntry_gives (hfirst entry hmem)
    have hset := ih (grammar.setState state.1 state.2) hrest
    exact .cons (fun step => hentries.under.bind .pure) hset

theorem readStates_gives {grammar : Grammar} (h : grammar.Writable) :
    (readStates (statesData grammar.states).node grammar.stateless).Gives (room + 5) grammar := by
  unfold readStates
  refine (settled_gives (statesData grammar.states)).bind ?_
  have hadds := @states_add room grammar.stateless grammar.states h
  rw [grammar.setStates_states] at hadds
  exact (readPairs_gives readString_gives hadds).inside.located

theorem readGrammar_gives {grammar : Grammar} (h : grammar.Writable) :
    (readGrammar grammar.data.node).Gives (room + 6) grammar := by
  have haliases : (readList readString (Data.list (grammar.aliases.map .string)).node).Gives
      (room + 5) grammar.aliases :=
    readList_gives fun name _ => readString_gives name
  refine Shape.readNode_gives ?_ (by simp) (by simp [grammarShape])
  refine .cons rfl ((readString_gives grammar.name).bind .pure) ?_
  refine .cons rfl (haliases.bind .pure) ?_
  refine .cons rfl ((readFlags_gives grammar.flags).bind .pure) ?_
  exact .cons rfl (readStates_gives h) .nil

end Loader

namespace Grammar

-- A grammar is read back from its document.
theorem readGrammar_json {grammar : Grammar} (h : grammar.Writable) :
    Format.json.readGrammar grammar.json = .ok grammar := by
  have hroom : 0 + 6 ≤ 127 := by decide
  have hread := Loader.readGrammar_gives h ⟨⟨.json, grammar.data.node, #[]⟩, 127⟩ 0 rfl hroom
  have hrun : Reader.run Loader.readGrammar ⟨.json, grammar.data.node, #[]⟩ = .ok grammar :=
    congrArg (Except.map Prod.fst) hread
  have hdocument : Format.json.document? grammar.json = some ⟨.json, grammar.data.node, #[]⟩ :=
    grammar.data.document?_write
  rw [Format.readGrammar, Format.readText, hdocument]
  exact hrun

theorem Writable.pops {grammar : Grammar} (h : grammar.Writable) {state : String}
    {decl : RuleDecl} (hrule : grammar.HasRule state decl) : .pop 0 ∉ decl.transition.ops := by
  obtain ⟨entry, ⟨entries, hstate, hmem⟩, hdecl⟩ := hrule
  have hentry : entry.Writable := h _ hstate entry hmem
  have htransition : decl.transition.Writable := by
    match entry, hentry, hdecl with
    | .rule _, hentry, rfl => exact hentry.transition
    | .default _, hentry, rfl => exact hentry
  intro hpop
  exact absurd (htransition _ hpop).1 (by decide)

end Grammar

-- The grammars that documents of JSON give, and none of them pops nothing. Nothing is asked of
-- names, aliases, flags, patterns and includes.
theorem Format.readGrammar_image :
    (∀ grammar : Grammar, (∃ text, Format.json.readGrammar text = .ok grammar) ↔
      grammar.Writable) ∧
    ∀ text grammar, Format.json.readGrammar text = .ok grammar →
      ∀ id name state pattern, grammar.compile id ≠ .error (.zeroPop name state pattern) := by
  constructor
  · intro grammar
    constructor
    · rintro ⟨text, hread⟩
      exact readGrammar_yields hread
    · intro hwritable
      exact ⟨grammar.json, grammar.readGrammar_json hwritable⟩
  · intro text grammar hread id name state pattern hcompile
    have hwritable := readGrammar_yields hread
    cases (grammar.compile_settles id).of_error hcompile with
    | zeroPop hrule hop => exact hwritable.pops hrule hop

-- A grammar with an empty pattern, no groups, and the largest pop there is.
def Grammar.corners : Grammar :=
  ((Grammar.new "corners").setState "root"
    [.rule ⟨"", .groups [], ⟨[]⟩⟩,
     .rule ⟨"<", .delegate ⟨.this, some ""⟩, ⟨[.push "a # b", .pushCurrent]⟩⟩,
     .include "missing"]).setState "a # b"
    [.default ⟨[.pop maxCount]⟩]

theorem Grammar.corners_writable : corners.Writable := by
  have hlead : ∀ c ∈ "a # b".toList.head?, Text.isBlank c = false := by
    rintro c ⟨⟩
    decide
  have htrail : ∀ c ∈ "a # b".toList.getLast?, Text.isBlank c = false := by
    rintro c ⟨⟩
    decide
  have hpush : StackOp.Writable (.push "a # b") := ⟨by decide, hlead, htrail, by decide⟩
  have hmax : 1 ≤ maxCount := Nat.le_of_ble_eq_true rfl
  have hpop : StackOp.Writable (.pop maxCount) := ⟨hmax, Nat.le_refl _⟩
  have hdelegate : RuleDecl.Writable
      ⟨"<", .delegate ⟨.this, some ""⟩, ⟨[.push "a # b", .pushCurrent]⟩⟩ :=
    ⟨nofun, List.forall_mem_cons.mpr ⟨hpush, List.forall_mem_singleton.mpr trivial⟩⟩
  refine Writable.setState ((new_writable "corners").setState ?_) ?_
  · exact List.forall_mem_cons.mpr ⟨⟨nofun, nofun⟩,
      List.forall_mem_cons.mpr ⟨hdelegate, List.forall_mem_singleton.mpr trivial⟩⟩
  · exact List.forall_mem_singleton.mpr (List.forall_mem_singleton.mpr hpop)

theorem Format.corners_readGrammar_image :
    (∃ text, Format.json.readGrammar text = .ok .corners) ∧
      ∀ id name state pattern,
        Grammar.corners.compile id ≠ .error (.zeroPop name state pattern) := by
  obtain ⟨text, hread⟩ := (readGrammar_image.1 .corners).mpr Grammar.corners_writable
  exact ⟨⟨text, hread⟩, readGrammar_image.2 text .corners hread⟩

end StackLexer
