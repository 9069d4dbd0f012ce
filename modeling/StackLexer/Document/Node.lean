import StackLexer.Text

namespace StackLexer

inductive Format where
  | yaml
  | json
deriving DecidableEq, Repr

-- A scalar stands on its own, in quotes, or on lines below, whose breaks are kept or folded.
inductive Style where
  | plain
  | quoted
  | literal
  | folded
deriving DecidableEq, Repr

-- A text with the tag in front of it. What stands in quotes in a JSON text has its escapes still
-- in it.
structure Scalar where
  text : Text
  style : Style
  tag? : Option Text
deriving DecidableEq, Repr

-- A document as a tree, the same for every format. It says how a text is put together and no more:
-- what a scalar stands for is told when it is read, so a number that is too large or a broken
-- escape is found only where somebody reads it. An alias stands for the node that has the anchor of
-- that number. `absent` is the content of a document that holds nothing.
inductive Node where
  | scalar (scalar : Scalar)
  | sequence (tag? : Option Text) (items : List Node)
  | mapping (tag? : Option Text) (entries : List (Node × Node))
  | alias (anchor : Nat)
  | absent

namespace Node

mutual

-- The number of marks that begin or end a part of the tree, scalars and aliases being one each.
def size : Node → Nat
  | .scalar _ | .alias _ | .absent => 1
  | .sequence _ items => sizeAll items + 2
  | .mapping _ entries => sizePairs entries + 2

def sizeAll : List Node → Nat
  | [] => 0
  | node :: rest => node.size + sizeAll rest

def sizePairs : List (Node × Node) → Nat
  | [] => 0
  | (key, value) :: rest => key.size + value.size + sizePairs rest

end

end Node

-- `anchors` has the node of every anchor, by its number.
structure Document where
  format : Format
  root : Node
  anchors : Array Node

namespace Document

-- Containers nest at most this deep, the root included.
def maxDepth (document : Document) : Nat :=
  match document.format with
  | .yaml => 128
  | .json => 127

-- A reader may follow this many aliases in all.
def maxJumps (document : Document) : Nat := 100 * document.root.size

end Document

-- What a scalar stands for. Integers with a minus sign are apart from those without, even zero.
-- `real` has the number as it is shown.
inductive Meaning where
  | null
  | bool (value : Bool)
  | natural (value : Nat)
  | negative (magnitude : Nat)
  | real (shown : Text)
  | string (text : Text)
deriving DecidableEq, Repr

-- Why a scalar stands for nothing: its tag says that it is a boolean, a number or a null and it is
-- none; its number is too large; or its escapes make no characters.
inductive ScalarFault where
  | wrongTag (text : Text) (wanted : String)
  | outOfRange
  | halfSurrogate
  | loneSurrogate
deriving DecidableEq, Repr

abbrev Meant := Except ScalarFault Meaning

-- A node with all that it stands for.
inductive Value where
  | scalar (meaning : Meaning)
  | sequence (items : List Value)
  | mapping (entries : List (Value × Value))

end StackLexer
