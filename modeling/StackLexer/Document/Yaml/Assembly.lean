import StackLexer.Document.Yaml.Layout

namespace StackLexer.Yaml

-- What is left to read, and what is known: the number of each name of an anchor, the starts of tags
-- by their handles, and the nodes that have an anchor. `places` has, newest first, the number that
-- each of these nodes was given, and `nodes` those nodes that are complete, by their place.
structure Assembly where
  lexemes : List Lexeme
  names : List (Text × Nat)
  handles : List (Text × Text)
  places : List Nat
  nodes : List (Nat × Node)

abbrev Assembling (α : Type) := StateT Assembly Option α

namespace Assembly

def start (lexemes : List Lexeme) : Assembly := ⟨lexemes, [], [], [], []⟩

def fail {α : Type} : Assembling α := fun _ => none

def peek : Assembling (Option Lexeme) := return (← get).lexemes.head?

def skip : Assembling Unit := modify fun assembly =>
  { assembly with lexemes := assembly.lexemes.drop 1 }

-- Reads the lexeme, which has to come next.
def expect (lexeme : Lexeme) : Assembling Unit := do
  if (← peek) = some lexeme then skip else fail

def skipIf (lexeme : Lexeme) : Assembling Bool := do
  if (← peek) = some lexeme then
    skip
    return true
  else return false

-- One of the lexemes comes next, or none at all.
def isAt (lexemes : List Lexeme) : Assembling Bool := do
  match ← peek with
  | some lexeme => return lexemes.contains lexeme
  | none => return true

def leftOut : Node := .scalar ⟨[], .plain, none⟩

def aliasOf (name : Text) : Assembling Node := do
  match (← get).names.lookup name with
  | some anchor => return .alias anchor
  | none => fail

-- Gives a number to an anchor. It is the number of names before this one, so a name that is known
-- already gets a number that is not its own.
def declare (name : Text) : Assembling Nat := do
  let assembly ← get
  let anchor := assembly.names.length
  let others := assembly.names.filter fun known => known.1 != name
  set { assembly with
    names := (name, anchor) :: others
    places := anchor :: assembly.places }
  return assembly.places.length

-- Assembles a node, which has the anchor if there is one.
def anchored (name? : Option Text) (parts : Assembling Node) : Assembling Node :=
  match name? with
  | none => parts
  | some name => do
      let place ← declare name
      let node ← parts
      modify fun assembly => { assembly with nodes := (place, node) :: assembly.nodes }
      return node

-- The node of each anchor: the one that was given its number last. An alias in front of that node
-- stands for it, too.
def anchors (assembly : Assembly) : Array Node :=
  let count := assembly.places.length
  let node (anchor : Nat) : Node :=
    match assembly.places.idxOf? anchor with
    | some later => (assembly.nodes.lookup (count - later - 1)).getD .absent
    | none => .absent
  ((List.range (assembly.names.length + 1)).map node).toArray

-- The handles that need no directive.
def standardHandles : List (Text × Text) := [(['!'], ['!']), (['!', '!'], coreLead)]

def fullTag (tag : Tag) : Assembling Text := do
  if tag.handle.isEmpty then return tag.suffix
  else match ((← get).handles ++ standardHandles).lookup tag.handle with
    | some lead => return lead ++ tag.suffix
    | none => fail

-- What stands in front of a node.
structure Properties where
  anchor? : Option Text
  tag? : Option Text

def anchor? : Assembling (Option Text) := do
  match ← peek with
  | some (.anchor name) =>
      skip
      return some name
  | _ => return none

def tag? : Assembling (Option Text) := do
  match ← peek with
  | some (.tag tag) =>
      skip
      return some (← fullTag tag)
  | _ => return none

-- An anchor and a tag, each at most once and in any order.
def properties : Assembling Properties := do
  match ← anchor? with
  | some anchor => return ⟨some anchor, ← tag?⟩
  | none =>
      let tag? ← tag?
      if tag?.isSome then return ⟨← anchor?, tag?⟩ else return ⟨none, none⟩

-- Where a node may begin: `inBlock` where a block may begin, `bare` where a sequence may be
-- indented no more than the key that it belongs to.
structure Context where
  inBlock : Bool
  bare : Bool

mutual

def node (context : Context) : (fuel : Nat) → Assembling Node
  | 0 => fail
  | fuel + 1 => do
      if let some (.alias name) ← peek then
        skip
        aliasOf name
      else
        let ⟨anchor?, tag?⟩ ← properties
        let sequence (parts : Assembling (List Node)) : Assembling Node :=
          anchored anchor? (return .sequence tag? (← parts))
        let mapping (parts : Assembling (List (Node × Node))) : Assembling Node :=
          anchored anchor? (return .mapping tag? (← parts))
        match ← peek, context.inBlock, context.bare with
        | some .dash, _, true => sequence (bareItems fuel)
        | some (.scalar text style), _, _ => do
            skip
            anchored anchor? (return .scalar ⟨text, style, tag?⟩)
        | some .flowSequence, _, _ => do
            skip
            sequence (flowItems fuel true)
        | some .flowMapping, _, _ => do
            skip
            mapping (flowEntries fuel true)
        | some .blockSequence, true, _ => do
            skip
            sequence (blockItems fuel)
        | some .blockMapping, true, _ => do
            skip
            mapping (blockEntries fuel)
        | _, _, _ =>
            if anchor?.isSome || tag?.isSome then
              anchored anchor? (return .scalar ⟨[], .plain, tag?⟩)
            else fail

-- A node, unless one of the lexemes comes that say it is left out.
def nodeUnless (context : Context) (absent : List Lexeme) : (fuel : Nat) → Assembling Node
  | 0 => fail
  | fuel + 1 => do
      match ← peek with
      | some lexeme => if absent.contains lexeme then return leftOut else node context fuel
      | none => fail

def blockItems : (fuel : Nat) → Assembling (List Node)
  | 0 => fail
  | fuel + 1 => do
      if ← skipIf .blockEnd then return []
      else
        expect .dash
        let item ← nodeUnless ⟨true, false⟩ [.dash, .blockEnd] fuel
        return item :: (← blockItems fuel)

-- The elements of a sequence that is indented no more than its key.
def bareItems : (fuel : Nat) → Assembling (List Node)
  | 0 => fail
  | fuel + 1 => do
      if ← skipIf .dash then
        let item ← nodeUnless ⟨true, false⟩ [.dash, .key, .value, .blockEnd] fuel
        return item :: (← bareItems fuel)
      else return []

def blockEntries : (fuel : Nat) → Assembling (List (Node × Node))
  | 0 => fail
  | fuel + 1 => do
      if ← skipIf .blockEnd then return []
      else
        expect .key
        let absent : List Lexeme := [.key, .value, .blockEnd]
        let key ← nodeUnless ⟨true, true⟩ absent fuel
        let value ← if ← skipIf .value then nodeUnless ⟨true, true⟩ absent fuel else pure leftOut
        return (key, value) :: (← blockEntries fuel)

-- A pair between brackets, behind the mark of its key.
def flowPair : (fuel : Nat) → (absent : List Lexeme) → Assembling (Node × Node)
  | 0, _ => fail
  | fuel + 1, absent => do
      let key ← nodeUnless ⟨false, false⟩ (.value :: absent) fuel
      let value ← if ← skipIf .value then nodeUnless ⟨false, false⟩ absent fuel else pure leftOut
      return (key, value)

-- The elements of a sequence in brackets. A pair is a mapping of its own.
def flowItems : (fuel : Nat) → (first : Bool) → Assembling (List Node)
  | 0, _ => fail
  | fuel + 1, first => do
      if ← skipIf .flowSequenceEnd then return []
      else
        unless first do expect .comma
        if !first && (← skipIf .flowSequenceEnd) then return []
        else if ← skipIf .key then
          let absent : List Lexeme := [.comma, .flowSequenceEnd]
          -- A key that is left out takes the colon with it, or whatever comes instead.
          let isLeftOut ← isAt (.value :: absent)
          if isLeftOut then skip
          let key ← if isLeftOut then pure leftOut else node ⟨false, false⟩ fuel
          let value ← if ← skipIf .value then nodeUnless ⟨false, false⟩ absent fuel
            else pure leftOut
          return .mapping none [(key, value)] :: (← flowItems fuel false)
        else
          let item ← node ⟨false, false⟩ fuel
          return item :: (← flowItems fuel false)

-- The pairs of a mapping in brackets. A node on its own is a key.
def flowEntries : (fuel : Nat) → (first : Bool) → Assembling (List (Node × Node))
  | 0, _ => fail
  | fuel + 1, first => do
      if ← skipIf .flowMappingEnd then return []
      else
        unless first do expect .comma
        if !first && (← skipIf .flowMappingEnd) then return []
        else if ← skipIf .key then
          let pair ← flowPair fuel [.comma, .flowMappingEnd]
          return pair :: (← flowEntries fuel false)
        else
          let key ← node ⟨false, false⟩ fuel
          return (key, leftOut) :: (← flowEntries fuel false)

end

-- The directives in front of a document. There is at most one for the version, and one for each
-- handle.
def directives : (fuel : Nat) → (hasVersion : Bool) → Assembling Unit
  | 0, _ => fail
  | fuel + 1, hasVersion => do
      match ← peek with
      | some (.version major minor) =>
          if hasVersion || major != 1 || !(minor == 1 || minor == 2) then fail
          else
            skip
            directives fuel true
      | some (.handle handle lead) =>
          if ((← get).handles.lookup handle).isSome then fail
          else
            skip
            modify fun assembly => { assembly with handles := (handle, lead) :: assembly.handles }
            directives fuel hasVersion
      | _ => return

-- The node of a document whose start is written.
def contents (fuel : Nat) : Assembling Node := do
  match ← peek with
  | none | some (.version _ _) | some (.handle _ _) | some .documentStart | some .documentEnd =>
      return leftOut
  | some _ => node ⟨true, false⟩ fuel

-- The first document. Its start is not written, unless there are directives.
def root : Assembling Node := do
  let fuel := 4 * (← get).lexemes.length + 4
  match ← peek with
  | none => return .absent
  | some (.version _ _) | some (.handle _ _) | some .documentStart => do
      directives fuel false
      expect .documentStart
      contents fuel
  | some _ => node ⟨true, false⟩ fuel

-- Nothing but marks of the end may follow the document.
def finish : Assembling Unit := do
  if (← get).lexemes.all (· == .documentEnd) then return else fail

end Assembly

def document? (text : Text) : Option Document := do
  let lexemes ← lexemes? text
  let (root, assembly) ← (Assembly.root <* Assembly.finish).run (.start lexemes)
  return ⟨.yaml, root, assembly.anchors⟩

end StackLexer.Yaml
