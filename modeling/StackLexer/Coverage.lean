import StackLexer.Text.Quoted
import StackLexer.Token

namespace StackLexer

-- Where a list of tokens first fails to cover its input. The cases are in the order in which they
-- are looked for at each token; `unreadable` is a span that cuts a character or leaves the input.
inductive CoverageFault where
  | gap (index : Nat) (kind : Kind) (start expected : Nat)
  | empty (index : Nat) (kind : Kind)
  | unreadable
  | differs (index : Nat) (span : Span)
  | short (stop size : Nat)
deriving DecidableEq, Repr

namespace Kind

-- The dotted name without its dots.
def joinedName (kind : Kind) : String :=
  String.ofList (kind.dottedName.toList.filter (· != '.'))

end Kind

namespace CoverageFault

-- There is no text for a span that cannot be read.
def message? : CoverageFault → Option String
  | .gap index kind start expected =>
      some (s!"token {index} ({kind.joinedName}) starts at {start} " ++
        s!"but the previous token ended at {expected}")
  | .empty index kind => some s!"token {index} ({kind.joinedName}) is empty"
  | .unreadable => none
  | .differs index span =>
      some s!"token {index} text does not match the input at {span.start}..{span.stop}"
  | .short stop size => some s!"tokens stop at {stop} of {size}"

end CoverageFault

namespace Coverage

-- Checks the tokens from number `index` on, which should start at `offset`.
def checkFrom (input : Text) (index offset : Nat) : List Token → Except CoverageFault Unit
  | [] => if offset = input.size then .ok () else .error (.short offset input.size)
  | token :: rest =>
      if token.start ≠ offset then .error (.gap index token.kind token.start offset)
      else if token.text.isEmpty then .error (.empty index token.kind)
      else match input.slice? token.span with
        | none => .error .unreadable
        | some found =>
            if found = token.text then checkFrom input (index + 1) token.stop rest
            else .error (.differs index token.span)

-- The tokens cover the input from end to end, in order, and none is empty.
def check (input : Text) (tokens : List Token) : Except CoverageFault Unit :=
  checkFrom input 0 0 tokens

-- Puts the tokens behind `current` into it as long as kind and position fit. The text of a joined
-- token is read from the input, which fails where the input does not have it.
def mergeFrom (input : Text) (current : Token) : List Token → Option (List Token)
  | [] => some [current]
  | token :: rest =>
      if current.kind = token.kind ∧ current.stop = token.start then do
        let text ← input.slice? ⟨current.start, token.stop⟩
        mergeFrom input { current with text := text } rest
      else (mergeFrom input token rest).map (current :: ·)

-- Joins neighbouring tokens of one kind.
def merge (input : Text) : List Token → Option (List Token)
  | [] => some []
  | token :: rest => mergeFrom input token rest

def pairs (tokens : List Token) : List (Kind × Text) :=
  tokens.map fun token => (token.kind, token.text)

end Coverage

namespace Text

-- The text with spaces behind it, up to `width` characters.
def padRight (width : Nat) (text : Text) : Text :=
  text ++ List.replicate (width - text.length) ' '

-- The text with spaces in front of it, up to `width` characters.
def padLeft (width : Nat) (text : Text) : Text :=
  List.replicate (width - text.length) ' ' ++ text

end Text

namespace Token

-- The kind in a column of 16 characters, and the text in quotes.
def renderLine (token : Token) : Text :=
  Text.padRight 16 token.kind.dottedName.toList ++ ' ' :: Text.quoted token.text ++ ['\n']

end Token

def render (tokens : List Token) : Text := tokens.flatMap Token.renderLine

end StackLexer
