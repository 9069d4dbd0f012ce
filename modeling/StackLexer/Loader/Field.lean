import StackLexer.Document.Json.Meaning
import StackLexer.Document.Yaml.Meaning
import StackLexer.Loader.Error

namespace StackLexer

-- What a reader knows: the document, and how many containers may still be opened.
structure Scope where
  document : Document
  room : Nat

-- The number that goes along is that of the aliases followed so far. They are counted because nodes
-- that refer to each other could be read without an end.
abbrev Reader (α : Type) := ReaderT Scope (StateT Nat (Except ReadFault)) α

namespace Reader

-- An error of which it is not known yet where it belongs.
def refuse {α : Type} (error : ReadError) : Reader α := fun _ _ => .error ⟨error, none⟩

def mapFault {α : Type} (reader : Reader α) (change : ReadFault → ReadFault) : Reader α :=
  fun scope jumps => (reader scope jumps).mapError change

def located {α : Type} (reader : Reader α) : Reader α := reader.mapFault ReadFault.located

def under {α : Type} (step : Step) (reader : Reader α) : Reader α :=
  reader.mapFault (ReadFault.under step)

def inside {α : Type} (reader : Reader α) : Reader α := fun scope jumps =>
  match scope.room with
  | 0 => .error ⟨.tooDeep, none⟩
  | room + 1 => reader { scope with room } jumps

def run {α : Type} (reader : Node → Reader α) (document : Document) : Except ReadFault α :=
  (reader document.root ⟨document, document.maxDepth⟩ 0).map Prod.fst

end Reader

namespace Loader

def format : Reader Format := return (← read).document.format

def follow (anchor : Nat) : Reader Node := fun scope jumps =>
  if scope.document.maxJumps ≤ jumps then .error ⟨.tooManyJumps, none⟩
  else .ok (scope.document.anchors.getD anchor .absent, jumps + 1)

-- The node that is meant. Aliases do not stand for aliases.
def settled (node : Node) : Reader Node :=
  match node with
  | .alias anchor => follow anchor
  | node => return node

def meant (scalar : Scalar) : Reader Meaning := do
  let meant := match ← format with
    | .yaml => Yaml.meaning scalar
    | .json => Json.meaning scalar
  match meant with
  | .ok meaning => return meaning
  | .error fault => .refuse (.scalar fault)

-- How an error names what was found. Numbers of more than 64 bits have their size with them.
def describe (format : Format) : Meaning → String
  | .null => match format with
    | .yaml => "unit value"
    | .json => "null"
  | .bool value => s!"boolean `{value}`"
  | .natural n => if n ≤ maxCount then s!"integer `{n}`" else s!"integer `{n}` as u128"
  | .negative n =>
      let value := -(n : Int)
      if n ≤ Nat.pow 2 63 then s!"integer `{value}`" else s!"integer `{value}` as i128"
  | .real shown => "floating point `" ++ String.ofList shown ++ "`"
  | .string text => "string " ++ String.ofList (Text.quoted text)

def mismatch {α : Type} (wanted : String) (node : Node) : Reader α :=
  Reader.located <| match node with
  | .scalar scalar => do
      .refuse (.wrongType (describe (← format) (← meant scalar)) wanted)
  | .sequence _ _ => .refuse (.wrongType "sequence" wanted)
  | .mapping _ _ => .refuse (.wrongType "map" wanted)
  | .alias _ | .absent => .refuse .malformed

-- In YAML every scalar is a string where one is wanted.
def readText (wanted : String) (node : Node) : Reader String := do
  let node ← settled node
  match node, ← format with
  | .scalar scalar, .yaml => return String.ofList scalar.text
  | .scalar scalar, .json => match ← (meant scalar).located with
    | .string text => return String.ofList text
    | _ => mismatch wanted node
  | _, _ => mismatch wanted node

def readString (node : Node) : Reader String := readText "a string" node

-- A scalar in which `yaml?` or `json?` finds the value that is wanted.
def readScalar {α : Type} (wanted : String) (yaml? : Scalar → Option α)
    (json? : Meaning → Option α) (node : Node) : Reader α := do
  let node ← settled node
  match node with
  | .scalar scalar => do
      let value? ← match ← format with
        | .yaml => pure (yaml? scalar)
        | .json => json? <$> (meant scalar).located
      match value? with
      | some value => return value
      | none => mismatch wanted node
  | node => mismatch wanted node

def readBool : Node → Reader Bool :=
  readScalar "a boolean"
    (fun scalar => if Yaml.isReadAs "bool" scalar then Yaml.bool? scalar.text else none)
    (fun | .bool value => some value | _ => none)

def readCount : Node → Reader Nat :=
  readScalar "usize"
    (fun scalar => if Yaml.isReadAs "int" scalar then Yaml.count? scalar else none)
    (fun | .natural n => some n | _ => none)

-- A plain scalar of YAML is a null if it is empty or the word for it. If it has the tag of a null,
-- it has to be the word; with another tag it is none.
def isYamlNull (scalar : Scalar) : Except ScalarFault Bool :=
  if scalar.style ≠ .plain then .ok false
  else match scalar.tag? with
    | none => .ok (scalar.text.isEmpty || Yaml.isNull scalar.text)
    | some tag =>
        if tag ≠ Yaml.coreTag "null" then .ok false
        else if Yaml.isNull scalar.text then .ok true
        else .error (.wrongTag scalar.text "null")

def isNull (node : Node) : Reader Bool := do
  match node, ← format with
  | .scalar scalar, .yaml => match isYamlNull scalar with
    | .ok answer => return answer
    | .error fault => .refuse (.scalar fault)
  | .scalar scalar, .json => return scalar.style == .plain && scalar.text == "null".toList
  | .absent, _ => return true
  | _, _ => return false

-- A null stands for nothing.
def readOptional {α : Type} (read : Node → Reader α) (node : Node) : Reader (Option α) := do
  let node ← settled node
  if ← isNull node then return none else some <$> read node

-- In YAML a value that is left out altogether is an empty sequence or mapping.
def isLeftOut (format : Format) : Node → Bool
  | .scalar scalar => format == .yaml && scalar.style == .plain && scalar.text.isEmpty
  | .absent => true
  | _ => false

-- The elements from number `index` on.
def readItems {α : Type} (read : Node → Reader α) (index : Nat) : List Node → Reader (List α)
  | [] => return []
  | node :: rest => do
      let value ← (read node).under (.item index)
      return value :: (← readItems read (index + 1) rest)

def readList {α : Type} (read : Node → Reader α) (node : Node) : Reader (List α) := do
  match ← settled node with
  | .sequence _ items => (readItems read 0 items).inside.located
  | node => if isLeftOut (← format) node then return [] else mismatch "a sequence" node

-- The step to the value of a key. A key that is an alias has no name.
def stepTo : Node → Step
  | .scalar scalar => .field (String.ofList scalar.text)
  | _ => .field "?"

-- Keys and values in order, given to `add` with the step between them.
def readPairs {σ : Type} (readKey : Node → Reader String)
    (add : String → Step → Node → σ → Reader σ) : List (Node × Node) → σ → Reader σ
  | [], state => return state
  | (key, value) :: rest, state => do
      let name ← readKey key
      readPairs readKey add rest (← add name (stepTo key) value state)

-- A structure as it is being read: the record so far, and the fields read.
structure Partial (σ : Type) where
  record : σ
  seen : List String

-- A structure with named fields. In a list of values `mandatory` fields cannot be left off. It is
-- read field by field in the order of the text, and the first field that cannot be read decides the
-- error; what is missing is found out last.
structure Shape (σ : Type) where
  name : String
  fields : List String
  required : List String
  mandatory : List String
  read : String → Node → σ → Reader σ

namespace Shape

def addField {σ : Type} (shape : Shape σ) (name : String) (step : Step) (node : Node)
    (state : Partial σ) : Reader (Partial σ) :=
  if !shape.fields.contains name then .refuse (.unknownField name shape.fields)
  else if state.seen.contains name then .refuse (.duplicateField name)
  else do return ⟨← (shape.read name node state.record).under step, name :: state.seen⟩

-- The first required field that was not read is missing.
def finish {σ : Type} (shape : Shape σ) (state : Partial σ) : Reader σ :=
  match shape.required.find? fun name => !state.seen.contains name with
  | some name => .refuse (.missingField name)
  | none => return state.record

def wantedLength {σ : Type} (shape : Shape σ) : String :=
  s!"struct {shape.name} with {shape.fields.length} elements"

-- Fields by position, from number `index` on.
def readPositions {σ : Type} (shape : Shape σ) (index : Nat) :
    List String → List Node → σ → Reader σ
  | [], [], record => return record
  | [], _ :: _, _ => .refuse .surplus
  | names, [], record => match names.findIdx? shape.mandatory.contains with
      | some skipped => .refuse (.wrongLength (index + skipped) shape.wantedLength)
      | none => return record
  | name :: names, node :: rest, record => do
      shape.readPositions (index + 1) names rest (← shape.read name node record)

-- A mapping, or in JSON also a sequence of the fields' values.
def readNode {σ : Type} (shape : Shape σ) (start : σ) (node : Node) : Reader σ := do
  let node ← settled node
  let format ← Loader.format
  Reader.located <| match node, format with
  | .mapping _ entries, _ => Reader.inside do
      shape.finish (← readPairs (readText "field identifier") shape.addField entries ⟨start, []⟩)
  | .sequence _ items, .json => (shape.readPositions 0 shape.fields items start).inside
  | node, _ =>
      if isLeftOut format node then shape.finish ⟨start, []⟩
      else mismatch s!"struct {shape.name}" node

end Shape

end Loader

end StackLexer
