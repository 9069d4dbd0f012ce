import StackLexer.Loader
import StackLexer.Proofs.Loader.Notation
import StackLexer.Proofs.Loader.Yields

namespace StackLexer

def Delegation.Writable (delegation : Delegation) : Prop := delegation.target ≠ .named "this"

def Part.Writable : Part Delegation → Prop
  | .kind _ => True
  | .delegate delegation => delegation.Writable

-- No text stands for a callback.
def Action.Writable : Action Delegation → Prop
  | .token _ => True
  | .groups parts => ∀ part ∈ parts, part.Writable
  | .delegate delegation => delegation.Writable
  | .callback _ => False

structure RuleDecl.Writable (decl : RuleDecl) : Prop where
  action : decl.action.Writable
  transition : decl.transition.Writable

def Entry.Writable : Entry → Prop
  | .rule decl => decl.Writable
  | .include _ => True
  | .default transition => transition.Writable

def StatesWritable (states : List (String × List Entry)) : Prop :=
  ∀ state ∈ states, ∀ entry ∈ state.2, entry.Writable

namespace Grammar

def Writable (grammar : Grammar) : Prop := StatesWritable grammar.states

theorem new_writable (name : String) : (new name).Writable := nofun

theorem Writable.setState {grammar : Grammar} (h : grammar.Writable) {name : String}
    {entries : List Entry} (hentries : ∀ entry ∈ entries, entry.Writable) :
    (grammar.setState name entries).Writable := by
  intro state hmem
  rcases mem_insertState hmem with rfl | hold
  · exact hentries
  · exact h state hold

end Grammar

namespace Loader

open Reader

theorem orNotation_yields {notation? : Except NotationError Transition}
    (h : ∀ transition, notation? = .ok transition → transition.Writable) :
    (orNotation notation?).Yields Transition.Writable := by
  cases notation? with
  | error error => exact .refuse
  | ok transition => exact .pure (h transition rfl)

theorem readTransition_yields (node : Node) : (readTransition node).Yields Transition.Writable := by
  unfold readTransition
  apply Yields.next
  intro value
  split
  · exact orNotation_yields fun _ h => Transition.parseAll_writable h
  · split
    · exact orNotation_yields fun _ h => Transition.parseAll_writable h
    · exact .refuse
  · exact .refuse

theorem groupFields?_writable {target : Option String} {state : Option (Option String)}
    {fields : List (Value × Value)} {delegation : Delegation}
    (h : groupFields? target state fields = some delegation) : delegation.Writable := by
  fun_induction groupFields? target state fields with
  | case1 target state =>
    obtain ⟨name, -, rfl⟩ := Option.map_eq_some_iff.mp h
    exact LexerName.ofText_ne_this name
  | case2 => cases h
  | case3 target state key value rest hkey htarget ih =>
    obtain ⟨name, -, hrest⟩ := Option.bind_eq_some_iff.mp h
    exact ih name hrest
  | case4 => cases h
  | case5 target state key value rest hkey hstate ih =>
    obtain ⟨name, -, hrest⟩ := Option.bind_eq_some_iff.mp h
    exact ih name hrest
  | case6 => cases h

theorem groupDelegation?_writable {value : Value} {delegation : Delegation}
    (h : groupDelegation? value = some delegation) : delegation.Writable := by
  unfold groupDelegation? at h
  split at h
  · exact groupFields?_writable h
  · obtain ⟨name, -, rfl⟩ := Option.map_eq_some_iff.mp h
    exact LexerName.ofText_ne_this name
  · obtain ⟨name, -, hrest⟩ := Option.bind_eq_some_iff.mp h
    obtain ⟨state?, -, hsome⟩ := Option.bind_eq_some_iff.mp hrest
    cases hsome
    exact LexerName.ofText_ne_this name
  · cases h

theorem readGroup_yields (node : Node) : (readGroup node).Yields Part.Writable := by
  unfold readGroup
  apply Yields.next
  intro value
  dsimp only
  split
  · exact .pure trivial
  · rename_i hdelegation
    exact .pure (groupDelegation?_writable hdelegation)
  · exact .refuse

-- The fields of an entry that notations were read for.
structure EntryFields.Writable (fields : EntryFields) : Prop where
  default? : ∀ transition ∈ fields.default?, transition.Writable
  groups? : ∀ groups ∈ fields.groups?, ∀ part ∈ groups, part.Writable
  next? : ∀ transition ∈ fields.next?, transition.Writable

theorem EntryFields.readField_yields (name : String) (node : Node) {fields : EntryFields}
    (h : fields.Writable) : (readField name node fields).Yields Writable := by
  unfold readField
  split
  · exact .next fun _ => .pure ⟨h.default?, h.groups?, h.next?⟩
  · exact (readOptional_yields readTransition_yields node).bind fun _ hread =>
      .pure ⟨hread, h.groups?, h.next?⟩
  · exact .next fun _ => .pure ⟨h.default?, h.groups?, h.next?⟩
  · exact .next fun _ => .pure ⟨h.default?, h.groups?, h.next?⟩
  · exact (readOptional_yields (readList_yields readGroup_yields) node).bind fun _ hread =>
      .pure ⟨h.default?, hread, h.next?⟩
  · exact .next fun _ => .pure ⟨h.default?, h.groups?, h.next?⟩
  · exact .next fun _ => .pure ⟨h.default?, h.groups?, h.next?⟩
  · exact (readOptional_yields readTransition_yields node).bind fun _ hread =>
      .pure ⟨h.default?, h.groups?, hread⟩

theorem EntryFields.plain_ok {fields : EntryFields} {form : String} {value entry : Entry}
    (h : fields.plain form value = .ok entry) : entry = value := by
  unfold plain at h
  split at h
  · cases h
  · exact (Except.ok.inj h).symm

theorem EntryFields.rule_writable {fields : EntryFields} {pattern : String} {entry : Entry}
    (hfields : fields.Writable) (h : fields.rule pattern = .ok entry) : entry.Writable := by
  have hnext : (fields.next?.getD .none).Writable := by
    cases hgiven : fields.next? with
    | none => exact nofun
    | some transition => exact hfields.next? transition hgiven
  -- Whatever the action is, the state of a delegation is checked next.
  have hrule : ∀ action : Action Delegation, action.Writable →
      (if fields.state?.isSome && fields.using?.isNone then
        Except.error (EntryError.strayField "state" "non-delegating rule")
      else .ok (.rule ⟨pattern, action, fields.next?.getD .none⟩)) = .ok entry →
      entry.Writable := by
    intro action haction hcheck
    split at hcheck
    · cases hcheck
    · cases hcheck
      exact ⟨haction, hnext⟩
  unfold rule at h
  dsimp only at h
  split at h
  · exact hrule (.token _) trivial h
  · rename_i groups _ hgroups _
    exact hrule (.groups groups) (hfields.groups? groups hgroups) h
  · rename_i target _ _ _
    exact hrule (.delegate ⟨.ofText target, fields.state?⟩) (LexerName.ofText_ne_this target) h
  · cases h
  · cases h

theorem EntryFields.toEntry_writable {fields : EntryFields} {entry : Entry}
    (hfields : fields.Writable) (h : fields.toEntry = .ok entry) : entry.Writable := by
  unfold toEntry at h
  split at h
  · cases h
  · rw [plain_ok h]
    trivial
  · rename_i hdefault _
    rw [plain_ok h]
    exact hfields.default? _ hdefault
  · exact rule_writable hfields h
  · cases h

theorem EntryFields.readNode_yields (node : Node) :
    (EntryFields.shape.readNode .empty node).Yields EntryFields.Writable :=
  Shape.readNode_yields (fun name node _ => EntryFields.readField_yields name node)
    ⟨nofun, nofun, nofun⟩ node

theorem readEntry_yields (node : Node) : (readEntry node).Yields Entry.Writable := by
  unfold readEntry
  refine (EntryFields.readNode_yields node).bind ?_
  intro fields hfields
  split
  · rename_i hentry
    exact .pure (EntryFields.toEntry_writable hfields hentry)
  · exact .refuse

theorem readStates_yields (node : Node) {grammar : Grammar} (h : grammar.Writable) :
    (readStates node grammar).Yields Grammar.Writable := by
  unfold readStates
  apply Yields.next
  intro node
  split
  · apply Yields.located
    apply Yields.inside
    refine readPairs_yields ?_ _ h
    intro name step value grammar hgrammar
    exact (readList_yields readEntry_yields value).under.bind fun entries hentries =>
      .pure (hgrammar.setState hentries)
  · apply Yields.next
    intro format
    split
    · exact .pure h
    · exact mismatch_yields

theorem readGrammarField_yields (name : String) (node : Node) {grammar : Grammar}
    (h : grammar.Writable) : (readGrammarField name node grammar).Yields Grammar.Writable := by
  unfold readGrammarField
  split
  · exact .next fun _ => .pure h
  · exact .next fun _ => .pure h
  · exact .next fun _ => .pure h
  · exact readStates_yields node h

theorem readGrammar_yields (node : Node) : (readGrammar node).Yields Grammar.Writable :=
  Shape.readNode_yields (fun name node _ => readGrammarField_yields name node)
    (Grammar.new_writable "") node

end Loader

-- In a grammar that a document gives there is no callback, no lexer by the name `this`, and no
-- operation without a notation.
theorem Format.readGrammar_yields {format : Format} {text : Text} {grammar : Grammar}
    (h : format.readGrammar text = .ok grammar) : grammar.Writable := by
  unfold readGrammar readText at h
  split at h
  · rename_i document _
    exact Reader.run_yields (Loader.readGrammar_yields document.root) h
  · cases h

end StackLexer
