import StackLexer.Pattern
import StackLexer.Token
import StackLexer.Transition

namespace StackLexer

-- What a callback sees of the match it classifies. Offsets count in `input`, the text of the
-- scan that the match belongs to. `captures` starts with the whole match.
structure MatchView where
  input : Text
  captures : List (Option Span)
  state : String
  depth : Nat
deriving DecidableEq, Repr

namespace MatchView

-- The span of a group, if it took part.
def groupSpan? (context : MatchView) (index : Nat) : Option Span :=
  (context.captures[index]?).join

def span (context : MatchView) : Span := (context.groupSpan? 0).getD ⟨0, 0⟩

def offset (context : MatchView) : Nat := context.span.start

def groupCount (context : MatchView) : Nat := context.captures.length - 1

def groupText? (context : MatchView) (index : Nat) : Option Text :=
  (context.groupSpan? index).bind context.input.slice?

def text? (context : MatchView) : Option Text := context.input.slice? context.span

end MatchView

-- Classifies a match. The spans may lie anywhere; the scanner keeps what fits.
structure Callback where
  run : MatchView → List (Kind × Span)

-- The lexer that a delegation names: the one that the rule belongs to, or another.
inductive LexerName where
  | this
  | named (name : String)
deriving DecidableEq, Repr

namespace LexerName

-- As it is written; `this` is not the name of another lexer.
def ofText (text : String) : LexerName := if text = "this" then .this else .named text

def text : LexerName → String
  | .this => "this"
  | .named name => name

end LexerName

-- Hands a span to another scan, which starts with `state?` above its root state.
structure Delegation where
  target : LexerName
  state? : Option String
deriving DecidableEq, Repr

-- What a group of a match becomes. `δ` is the form of a delegation, before or after building.
inductive Part (δ : Type) where
  | kind (kind : Kind)
  | delegate (delegation : δ)
deriving DecidableEq, Repr

-- What a match becomes: one token, one part for each group, the tokens of another scan, or what
-- a callback makes of it.
inductive Action (δ : Type) where
  | token (kind : Kind)
  | groups (parts : List (Part δ))
  | delegate (delegation : δ)
  | callback (callback : Callback)

namespace Action

-- Only these need to know the groups of a match.
def needsGroups {δ : Type} : Action δ → Bool
  | .groups _ | .callback _ => true
  | _ => false

def delegations {δ : Type} : Action δ → List δ
  | .delegate delegation => [delegation]
  | .groups parts => parts.filterMap fun
    | .delegate delegation => some delegation
    | .kind _ => none
  | _ => []

-- Changes every delegation; `f` also gets its place among the parts of the action.
def mapDelegations {δ ε : Type} (f : Nat → δ → ε) : Action δ → Action ε
  | .token kind => .token kind
  | .groups parts => .groups (parts.mapIdx fun index part =>
      match part with
      | .kind kind => .kind kind
      | .delegate delegation => .delegate (f index delegation))
  | .delegate delegation => .delegate (f 0 delegation)
  | .callback call => .callback call

end Action

-- The rules of the current state are tried in order, and the first one that matches at the cursor
-- wins. What it matched becomes tokens as its action says, and its transition changes the stack of
-- states.
structure RuleDecl where
  pattern : String
  action : Action Delegation
  transition : Transition

-- An element of a state: a rule, the rules of another state of the grammar, or a change of the
-- stack that takes up no text.
inductive Entry where
  | rule (rule : RuleDecl)
  | include (state : String)
  | default (transition : Transition)

-- A default is a rule with an empty pattern. Its kind is never seen, since its matches are empty.
def RuleDecl.ofDefault (transition : Transition) : RuleDecl := ⟨"", .token .text, transition⟩

-- A lexer as plain data: states with names, each an ordered list of entries. The states are in the
-- order of their names, which all differ; no more is checked before a table is built.
structure Grammar where
  name : String
  aliases : List String
  flags : MatchFlags
  states : List (String × List Entry)
  inOrder : (states.map (·.1)).Pairwise (· < ·)

namespace Grammar

-- The state in which every scan starts.
def rootName : String := "root"

def new (name : String) : Grammar := ⟨name, [], .none, [], .nil⟩

-- Puts a state in its place, over a state of the same name.
def insertState (name : String) (entries : List Entry) :
    List (String × List Entry) → List (String × List Entry)
  | [] => [(name, entries)]
  | (other, otherEntries) :: rest =>
      if name = other then (name, entries) :: rest
      else if name < other then (name, entries) :: (other, otherEntries) :: rest
      else (other, otherEntries) :: insertState name entries rest

section Insert

variable {name : String} {entries : List Entry} {states : List (String × List Entry)}

theorem mem_insertState {state : String × List Entry}
    (h : state ∈ insertState name entries states) : state = (name, entries) ∨ state ∈ states := by
  fun_induction insertState name entries states with
  | case1 => simpa using h
  | case2 _ rest => exact (List.mem_cons.mp h).imp_right (List.mem_cons_of_mem _)
  | case3 last _ rest => exact List.mem_cons.mp h
  | case4 last _ rest _ _ ih =>
    rcases List.mem_cons.mp h with rfl | hrest
    · exact .inr List.mem_cons_self
    · exact (ih hrest).imp_right (List.mem_cons_of_mem _)

theorem insertState_inOrder (h : (states.map (·.1)).Pairwise (· < ·)) :
    ((insertState name entries states).map (·.1)).Pairwise (· < ·) := by
  fun_induction insertState name entries states with
  | case1 => exact List.pairwise_singleton ..
  | case2 _ rest => exact h
  | case3 last lastEntries rest _ hlt =>
    refine List.pairwise_cons.mpr ⟨?_, h⟩
    intro later hlater
    rcases List.mem_cons.mp hlater with rfl | hrest
    · exact hlt
    · exact String.lt_trans hlt ((List.pairwise_cons.mp h).1 later hrest)
  | case4 last lastEntries rest hne hafter ih =>
    obtain ⟨hfirst, hrest⟩ := List.pairwise_cons.mp h
    have hlt : last < name := Std.lt_of_le_of_ne (String.not_lt.mp hafter) (Ne.symm hne)
    refine List.pairwise_cons.mpr ⟨?_, ih hrest⟩
    intro later hlater
    obtain ⟨state, hmem, rfl⟩ := List.mem_map.mp hlater
    rcases mem_insertState hmem with rfl | hold
    · exact hlt
    · exact hfirst _ (List.mem_map_of_mem hold)

end Insert

def setState (grammar : Grammar) (name : String) (entries : List Entry) : Grammar where
  name := grammar.name
  aliases := grammar.aliases
  flags := grammar.flags
  states := insertState name entries grammar.states
  inOrder := insertState_inOrder grammar.inOrder

def stateNames (grammar : Grammar) : List String := grammar.states.map (·.1)

def names (grammar : Grammar) : List String := grammar.name :: grammar.aliases

-- All delegations, in the order of states, entries and parts.
def delegations (grammar : Grammar) : List Delegation :=
  grammar.states.flatMap fun (_, entries) =>
    entries.flatMap fun entry => match entry with
      | .rule definition => definition.action.delegations
      | _ => []

end Grammar

end StackLexer
