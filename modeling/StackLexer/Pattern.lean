import StackLexer.Regex.Expr.OfTree
import StackLexer.Regex.Reader
import StackLexer.Regex.Search
import StackLexer.Regex.Weight
import StackLexer.Text.Quoted

namespace StackLexer

-- Flags of a grammar, which hold at the start of each of its patterns.
structure MatchFlags where
  caseInsensitive : Bool
  multilineAnchors : Bool
  dotMatchesNewline : Bool
deriving DecidableEq, Repr, Inhabited

namespace MatchFlags

def none : MatchFlags := ⟨false, false, false⟩

def toFlags (flags : MatchFlags) : Regex.Flags where
  caseInsensitive := flags.caseInsensitive
  multiLine := flags.multilineAnchors
  dotNewline := flags.dotMatchesNewline
  swapGreed := false
  unicode := true
  crlf := false

end MatchFlags

-- A source that is no pattern, or whose automaton would be too large.
inductive PatternError where
  | malformed
  | tooLarge
deriving DecidableEq, Repr

def PatternError.message : PatternError → String
  | .malformed => "error parsing pattern 0"
  | .tooLarge => "error building NFA"

-- A compiled pattern. It is matched at a given offset of a text and nowhere else, but its
-- assertions see the whole text around that offset. `minSize?` is the least size of a match, as far
-- as the expression tells it. Groups that are repeated zero times are not counted, but the others
-- keep their numbers.
structure Pattern where
  source : String
  program : Regex.Program
  groupCount : Nat
  minSize? : Option Nat
deriving Repr

-- A match: its span, and for every group of the pattern the span it took, if it took part.
structure Match where
  span : Span
  groups : List (Option Span)
deriving DecidableEq, Repr

namespace Match

-- Group 0 is the whole match.
def captures (found : Match) : List (Option Span) := some found.span :: found.groups

end Match

namespace Pattern

def ofExpr (source : String) (expr : Regex.Expr) : Pattern where
  source := source
  program := .ofExpr expr
  groupCount := expr.captures
  minSize? := expr.minSize?

def expr? (source : Text) (flags : MatchFlags) : Option Regex.Expr := do
  let tree ← Regex.Tree.read? source
  return (← Regex.Expr.ofTree? flags.toFlags tree).1

def compile (source : String) (flags : MatchFlags) : Except PatternError Pattern :=
  match expr? source.toList flags with
  | none => .error .malformed
  | some expr =>
      if expr.isTooLarge then .error .tooLarge else .ok (ofExpr source expr)

-- The expression allows a match of no text. Assertions count as nothing.
def matchesEmpty (pattern : Pattern) : Bool := pattern.minSize? == some 0

-- The match that starts at the place, if there is one.
def matchAt (pattern : Pattern) (place : Place) : Option Match :=
  (pattern.program.search place).map fun hit =>
    { span := ⟨place.offset, hit.stop⟩
      groups := (List.range pattern.groupCount).map fun k => hit.captures.span? (k + 1) }

-- The same at an offset of a text. Nothing matches inside of a character.
def matchText (pattern : Pattern) (text : Text) (offset : Nat) : Option Match :=
  (text.place? offset).bind pattern.matchAt

def matchEnd (pattern : Pattern) (text : Text) (offset : Nat) : Option Nat :=
  (pattern.matchText text offset).map fun found => found.span.stop

def capturesAt (pattern : Pattern) (text : Text) (offset : Nat) : Option (List (Option Span)) :=
  (pattern.matchText text offset).map Match.captures

def debug (pattern : Pattern) : String :=
  "Pattern(" ++ String.ofList (Text.quoted pattern.source.toList) ++ ")"

end Pattern

end StackLexer
