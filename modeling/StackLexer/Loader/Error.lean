import StackLexer.Document.Node
import StackLexer.Text.Quoted
import StackLexer.Token.Name
import StackLexer.Transition

namespace StackLexer

-- A combination of fields that is no entry of a state.
inductive EntryError where
  | empty
  | ambiguous
  | missingAction (pattern : String)
  | conflictingActions (pattern : String)
  | strayField (field form : String)
deriving DecidableEq, Repr

def EntryError.message : EntryError → String
  | .empty => "entry needs one of `match`, `include` or `default`"
  | .ambiguous => "entry mixes `match`, `include` and `default`"
  | .missingAction pattern => s!"rule '{pattern}' needs one of `token`, `groups` or `using`"
  | .conflictingActions pattern =>
      s!"rule '{pattern}' has more than one of `token`, `groups` and `using`"
  | .strayField field form => s!"`{field}` is not allowed on {form} entries"

-- `malformed` is a text that breaks the rules of its format. All others are about what a
-- well-formed text says.
inductive ReadError where
  | malformed
  | missingField (name : String)
  | duplicateField (name : String)
  | unknownField (name : String) (known : List String)
  | wrongType (found wanted : String)
  | wrongLength (length : Nat) (wanted : String)
  | surplus
  | scalar (fault : ScalarFault)
  | tooDeep
  | tooManyJumps
  | noVariant (type : String)
  | taggedVariant
  | entry (error : EntryError)
  | transition (error : NotationError)
  | kind (error : UnknownKind)
deriving DecidableEq, Repr

namespace ScalarFault

def message : ScalarFault → String
  | .wrongTag text wanted =>
      "invalid value: string " ++ String.ofList (Text.quoted text) ++ s!", expected {wanted}"
  | .outOfRange => "number out of range"
  | .halfSurrogate => "unexpected end of hex escape"
  | .loneSurrogate => "lone leading surrogate in hex escape"

end ScalarFault

namespace ReadError

-- A limit of the reader is passed. No place in the document is told for that.
def isLimit : ReadError → Bool
  | .tooDeep | .tooManyJumps => true
  | _ => false

-- One name, two names, or a list of names.
def alternatives : List String → String
  | [a] => s!"`{a}`"
  | [a, b] => s!"`{a}` or `{b}`"
  | names => "one of " ++ ", ".intercalate (names.map fun name => s!"`{name}`")

-- There is no text for a malformed document.
def message? : ReadError → Option String
  | .malformed => none
  | .missingField name => some s!"missing field `{name}`"
  | .duplicateField name => some s!"duplicate field `{name}`"
  | .unknownField name known => some s!"unknown field `{name}`, expected {alternatives known}"
  | .wrongType found wanted => some s!"invalid type: {found}, expected {wanted}"
  | .wrongLength length wanted => some s!"invalid length {length}, expected {wanted}"
  | .surplus => some "trailing characters"
  | .scalar fault => some fault.message
  | .tooDeep => some "recursion limit exceeded"
  | .tooManyJumps => some "repetition limit exceeded"
  | .noVariant type => some s!"data did not match any variant of untagged enum {type}"
  | .taggedVariant =>
      some "untagged and internally tagged enums do not support enum input"
  | .entry error => some error.message
  | .transition error => some error.message
  | .kind error => some error.message

end ReadError

-- A way from a node to a node inside of it.
inductive Step where
  | field (name : String)
  | item (index : Nat)
deriving DecidableEq, Repr

-- `place?` leads from the node that is read to the one at fault, once it is known which one that
-- is.
structure ReadFault where
  error : ReadError
  place? : Option (List Step)
deriving DecidableEq, Repr

namespace ReadFault

-- The node that is read is at fault, unless one inside of it is.
def located (fault : ReadFault) : ReadFault :=
  if fault.error.isLimit then fault else { fault with place? := some (fault.place?.getD []) }

-- The same as seen from the node around.
def under (step : Step) (fault : ReadFault) : ReadFault :=
  { fault with place? := fault.place?.map (step :: ·) }

def placeFrom (read : String) : List Step → String
  | [] => read
  | .field name :: rest => placeFrom (if read.isEmpty then name else read ++ "." ++ name) rest
  | .item index :: rest => placeFrom ((if read.isEmpty then "." else read) ++ s!"[{index}]") rest

-- The place as it stands in front of a message. The root has none.
def lead (fault : ReadFault) : String :=
  match fault.place?.getD [] with
  | [] => ""
  | steps => placeFrom "" steps ++ ": "

end ReadFault

end StackLexer
