import StackLexer.Text.Blank
import StackLexer.Token.Kind

namespace StackLexer

-- A text that names no kind, as it was given.
structure UnknownKind where
  text : String
deriving DecidableEq, Repr

def UnknownKind.message (error : UnknownKind) : String := s!"unknown token kind '{error.text}'"

namespace Kind

def named? (name : Text) : Option Kind := all.find? fun kind => kind.dottedName.toList == name

-- White space around the name is dropped, and so is one leading `Token.`.
def parse (text : String) : Except UnknownKind Kind :=
  let trimmed := Text.trim text.toList
  match named? ((Text.stripLead? "Token.".toList trimmed).getD trimmed) with
  | some kind => .ok kind
  | none => .error ⟨text⟩

end Kind

end StackLexer
