import StackLexer.Text.Count
import StackLexer.Unicode.CharSet

namespace StackLexer

-- Reads a range such as `5f` or `30-39`.
def readRange (text : Text) : CharRange :=
  match (Text.splitOn '-' text).map fun n => (Text.digits? 16 n).getD 0 with
  | [lo, hi] => ⟨lo, hi⟩
  | lo :: _ => ⟨lo, lo⟩
  | [] => ⟨1, 0⟩

def readRanges (lines : List String) : List CharRange :=
  lines.flatMap fun line => (Text.splitOn ' ' line.toList).map readRange

-- Reads runs. Each has a name of `width` characters, and a length if it is more than one.
def readRuns (width : Nat) : (fuel : Nat) → Text → List (Text × Nat)
  | 0, _ | _, [] => []
  | fuel + 1, text =>
      let rest := text.drop width
      let length := (Text.digits? 10 (rest.takeWhile Char.isDigit)).getD 1
      (text.take width, length) :: readRuns width fuel (rest.dropWhile Char.isDigit)

-- The ranges of the runs whose name passes the test, from the code point `start` on.
def selectRuns (test : Text → Bool) : (start : Nat) → List (Text × Nat) → List CharRange
  | _, [] => []
  | start, (name, length) :: rest =>
      if test name then ⟨start, start + length - 1⟩ :: selectRuns test (start + length) rest
      else selectRuns test (start + length) rest

namespace CharSet

-- Tables of code points are written as ranges in base 16, or as runs that go through all code
-- points in order.
def ofLines (lines : List String) : CharSet := .ofRanges (readRanges lines)

-- The code points in the runs of a table whose name passes the test.
def ofTable (width : Nat) (table : List String) (test : Text → Bool) : CharSet :=
  let text := (table.map String.toList).flatten
  ⟨merge (selectRuns test 0 (readRuns width text.length text))⟩

end CharSet

end StackLexer
