import StackLexer.Unicode.Property

namespace StackLexer.Regex

inductive WordEdge where
  | boundary | notBoundary | start | stop | startHalf | stopHalf
deriving DecidableEq, Repr

-- An assertion about a place in a text. It looks at one character to each side of the place and
-- consumes nothing. With `crlf`, lines may also end in a carriage return, and none ends between
-- that and a newline. With `unicode`, words may hold characters outside of ASCII.
inductive Look where
  | textStart
  | textEnd
  | lineStart (crlf : Bool)
  | lineEnd (crlf : Bool)
  | word (edge : WordEdge) (unicode : Bool)
deriving DecidableEq, Repr

namespace Look

def isWord (unicode : Bool) (c : Char) : Bool :=
  if unicode then Unicode.isWord c else c.toNat < 0x80 && Unicode.isWord c

def edgeHolds (edge : WordEdge) (before after : Bool) : Bool :=
  match edge with
  | .boundary => before != after
  | .notBoundary => before == after
  | .start => !before && after
  | .stop => before && !after
  | .startHalf => !before
  | .stopHalf => !after

def holds (look : Look) (before after : Option Char) : Bool :=
  match look with
  | .textStart => before.isNone
  | .textEnd => after.isNone
  | .lineStart false => before.isNone || before == some '\n'
  | .lineEnd false => after.isNone || after == some '\n'
  | .lineStart true =>
      before.isNone || before == some '\n' || (before == some '\x0d' && after != some '\n')
  | .lineEnd true =>
      after.isNone || after == some '\x0d' || (after == some '\n' && before != some '\x0d')
  | .word edge unicode => edgeHolds edge (before.any (isWord unicode)) (after.any (isWord unicode))

end Look

end StackLexer.Regex
