import StackLexer.Grammar
import StackLexer.Loader.Field

namespace StackLexer.Loader

-- A number of more than 64 bits has no place in a value.
def isLarge : Meaning → Bool
  | .natural n => maxCount < n
  | .negative n => Nat.pow 2 63 < n
  | _ => false

def readMeaning (scalar : Scalar) : Reader Meaning := do
  let meaning ← meant scalar
  if isLarge meaning then .refuse (.wrongType (describe (← format) meaning) "any value")
  else return meaning

-- Keys and values as `read` gives them.
def readValuePairs (read : Node → Reader Value) : List (Node × Node) → Reader (List (Value × Value))
  | [] => return []
  | (key, value) :: rest => do
      let first ← read key
      let second ← (read value).under (stepTo key)
      return (first, second) :: (← readValuePairs read rest)

-- A node must not have the tag of an application here.
def untagged (tag? : Option Text) (reader : Reader Value) : Reader Value :=
  if Yaml.isOwnTag tag? then .refuse .taggedVariant else reader.located

-- The value of a node, if containers may be opened with what is in them read by `inner?`.
def readValueWith (inner? : Option (Node → Reader Value)) (node : Node) : Reader Value := do
  match ← settled node, inner? with
  | .scalar scalar, _ => untagged scalar.tag? (return .scalar (← readMeaning scalar))
  | .sequence tag? items, some inner =>
      untagged tag? (return .sequence (← readItems inner 0 items))
  | .mapping tag? entries, some inner =>
      untagged tag? (return .mapping (← readValuePairs inner entries))
  | .sequence tag? _, none | .mapping tag? _, none => untagged tag? (.refuse .tooDeep)
  | .alias _, _ | .absent, _ => return .scalar .null

-- The value of a node with at most `room` containers one in another.
def readValueWithin : (room : Nat) → Node → Reader Value
  | 0, node => readValueWith none node
  | room + 1, node => readValueWith (some (readValueWithin room)) node

def readValue (node : Node) : Reader Value := do readValueWithin (← read).room node

def stringOf? : Value → Option String
  | .scalar (.string text) => some (String.ofList text)
  | _ => none

def orNotation {α : Type} : Except NotationError α → Reader α
  | .ok value => return value
  | .error error => .refuse (.transition error)

-- One notation, or a sequence of them. The node is read as a value before it is decided which of
-- the two it is.
def readTransition (node : Node) : Reader Transition := do
  match ← readValue node with
  | .scalar (.string text) => orNotation (Transition.parse (String.ofList text))
  | .sequence items => match items.mapM stringOf? with
    | some texts => orNotation (Transition.parseAll texts)
    | none => .refuse (.noVariant "RawTransition")
  | _ => .refuse (.noVariant "RawTransition")

def readKind (node : Node) : Reader Kind := do
  match Kind.parse (← readString node) with
  | .ok kind => return kind
  | .error error => .refuse (.kind error)

-- The state of a delegation in a group, if the value is one.
def groupState? : Value → Option (Option String)
  | .scalar .null => some none
  | value => (stringOf? value).map some

-- A field of a delegation by its name or its place.
def delegationField? : Value → Option String
  | .scalar (.string text) => some (String.ofList text)
  | .scalar (.natural 0) => some "using"
  | .scalar (.natural 1) => some "state"
  | _ => none

-- The fields of a delegation in a group: the lexer, and the state.
def groupFields? (target : Option String) (state : Option (Option String)) :
    List (Value × Value) → Option Delegation
  | [] => target.map fun name => ⟨.ofText name, state.join⟩
  | (key, value) :: rest => match delegationField? key with
    | some "using" =>
        if target.isSome then none
        else (stringOf? value).bind fun name => groupFields? (some name) state rest
    | some "state" =>
        if state.isSome then none
        else (groupState? value).bind fun name => groupFields? target (some name) rest
    | _ => none

def groupDelegation? : Value → Option Delegation
  | .mapping entries => groupFields? none none entries
  | .sequence [target] => (stringOf? target).map fun name => ⟨.ofText name, none⟩
  | .sequence [target, state] => do
      return ⟨.ofText (← stringOf? target), ← groupState? state⟩
  | _ => none

-- A kind, or else a delegation. Which of the two was meant is not told apart in the error.
def readGroup (node : Node) : Reader (Part Delegation) := do
  let value ← readValue node
  let kind? := (stringOf? value).bind fun text => (Kind.parse text).toOption
  match kind?, groupDelegation? value with
  | some kind, _ => return .kind kind
  | none, some delegation => return .delegate delegation
  | none, none => .refuse (.noVariant "GroupAction")

-- The fields of an entry, those left out or null being absent. An entry is a flat structure; which
-- fields it has decides whether it is a rule, an include or a default.
structure EntryFields where
  includes? : Option String
  default? : Option Transition
  pattern? : Option String
  token? : Option Kind
  groups? : Option (List (Part Delegation))
  using? : Option String
  state? : Option String
  next? : Option Transition

namespace EntryFields

def empty : EntryFields := ⟨none, none, none, none, none, none, none, none⟩

def readField (name : String) (node : Node) (entry : EntryFields) : Reader EntryFields := do
  match name with
  | "include" => return { entry with includes? := ← readOptional readString node }
  | "default" => return { entry with default? := ← readOptional readTransition node }
  | "match" => return { entry with pattern? := ← readOptional readString node }
  | "token" => return { entry with token? := ← readOptional readKind node }
  | "groups" => return { entry with groups? := ← readOptional (readList readGroup) node }
  | "using" => return { entry with using? := ← readOptional readString node }
  | "state" => return { entry with state? := ← readOptional readString node }
  | _ => return { entry with next? := ← readOptional readTransition node }

def fieldNames : List String :=
  ["include", "default", "match", "token", "groups", "using", "state", "next"]

def shape : Shape EntryFields where
  name := "RawEntry"
  fields := fieldNames
  required := []
  mandatory := fieldNames
  read := readField

-- The first field that only a rule can have.
def ruleField? (entry : EntryFields) : Option String :=
  if entry.token?.isSome then some "token"
  else if entry.groups?.isSome then some "groups"
  else if entry.using?.isSome then some "using"
  else if entry.state?.isSome then some "state"
  else if entry.next?.isSome then some "next"
  else none

-- The entry of a form that no field of a rule fits.
def plain (entry : EntryFields) (form : String) (value : Entry) : Except EntryError Entry :=
  match entry.ruleField? with
  | some field => .error (.strayField field form)
  | none => .ok value

def rule (entry : EntryFields) (pattern : String) : Except EntryError Entry := do
  let action : Action Delegation ← match entry.token?, entry.groups?, entry.using? with
    | some kind, none, none => .ok (.token kind)
    | none, some groups, none => .ok (.groups groups)
    | none, none, some target => .ok (.delegate ⟨.ofText target, entry.state?⟩)
    | none, none, none => .error (.missingAction pattern)
    | _, _, _ => .error (.conflictingActions pattern)
  if entry.state?.isSome && entry.using?.isNone then
    .error (.strayField "state" "non-delegating rule")
  else .ok (.rule ⟨pattern, action, entry.next?.getD .none⟩)

-- Exactly one of three fields gives the form of the entry.
def toEntry (entry : EntryFields) : Except EntryError Entry :=
  match entry.includes?, entry.default?, entry.pattern? with
  | none, none, none => .error .empty
  | some state, none, none => entry.plain "include" (.include state)
  | none, some transition, none => entry.plain "default" (.default transition)
  | none, none, some pattern => entry.rule pattern
  | _, _, _ => .error .ambiguous

end EntryFields

def readEntry (node : Node) : Reader Entry := do
  let fields ← EntryFields.shape.readNode .empty node
  match fields.toEntry with
  | .ok entry => return entry
  | .error error => .refuse (.entry error)

end StackLexer.Loader
