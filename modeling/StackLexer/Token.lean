import StackLexer.Token.Name

namespace StackLexer

-- A stretch of the input with a kind. The tokens of a scan lie end to end, so their texts put
-- together give the input back.
structure Token where
  kind : Kind
  start : Nat
  text : Text
deriving DecidableEq, Repr, Inhabited

namespace Token

def stop (token : Token) : Nat := token.start + token.text.size

def span (token : Token) : Span := ⟨token.start, token.stop⟩

def isError (token : Token) : Bool := token.kind.isA .error

end Token

end StackLexer
