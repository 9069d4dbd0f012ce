import StackLexer.Scan.Stream

namespace StackLexer

-- One lexer with all it delegates to: a set of tables and the table to start with.
structure Lexer where
  set : TableSet
  id : TableId

namespace Lexer

-- The first grammar is the lexer; the others are there to be delegated to.
def build (grammar : Grammar) (dependencies : List Grammar) (options : Options) :
    Except BuildError Lexer := do
  let set ← TableSet.build (grammar :: dependencies) options
  return ⟨set, (set.id? grammar.name).getD 0⟩

def ofSet? (set : TableSet) (name : String) : Option Lexer := (set.id? name).map (⟨set, ·⟩)

def tokens (lexer : Lexer) (text : Text) : Except Fault (List Token) :=
  lexer.set.tokens lexer.id text

end Lexer

end StackLexer
