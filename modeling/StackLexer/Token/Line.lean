import StackLexer.Coverage
import StackLexer.Document.Json.Quoted

namespace StackLexer.Token

-- The offset and the kind in columns, and the text in quotes.
def columns (token : Token) : Text :=
  Text.padLeft 6 (Nat.toDigits 10 token.start) ++ ' ' ::
    Text.padRight 24 token.kind.dottedName.toList ++ ' ' :: Text.quoted token.text

-- An object of JSON, without white space.
def json (token : Token) : Text :=
  "\x7b\"kind\":".toList ++ Json.quoted token.kind.dottedName.toList ++
    ",\"start\":".toList ++ Nat.toDigits 10 token.start ++
    ",\"text\":".toList ++ Json.quoted token.text ++ ['\x7d']

end StackLexer.Token
