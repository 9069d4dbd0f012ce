import StackLexer.Text

namespace StackLexer.Regex

inductive Flag where
  | caseInsensitive | multiLine | dotNewline | swapGreed | unicode | crlf | verbose
deriving DecidableEq, Repr

-- Flags after the negation are switched off.
inductive FlagItem where
  | negation
  | flag (flag : Flag)
deriving DecidableEq, Repr

-- What a list of items says about a flag, if anything.
def FlagItem.state? (wanted : Flag) : Bool → List FlagItem → Option Bool
  | _, [] => none
  | _, .negation :: rest => state? wanted true rest
  | negated, .flag f :: rest => if f = wanted then some (!negated) else state? wanted negated rest

inductive PerlClass where
  | digit | space | word
deriving DecidableEq, Repr

inductive AsciiClass where
  | alnum | alpha | ascii | blank | cntrl | digit | graph | lower | print | punct | space | upper
  | word | xdigit
deriving DecidableEq, Repr

-- A Unicode property: by one letter, by name, or by name and value.
inductive Property where
  | letter (c : Char)
  | named (name : Text)
  | valued (name value : Text)
deriving DecidableEq, Repr

inductive SetOp where
  | inter | diff | symmDiff
deriving DecidableEq, Repr

-- What stands between the brackets of a character class.
inductive ClassTree where
  | empty
  | char (c : Char)
  | range (first last : Char)
  | ascii (kind : AsciiClass) (negated : Bool)
  | perl (kind : PerlClass) (negated : Bool)
  | property (wanted : Property) (negated : Bool)
  | bracket (negated : Bool) (body : ClassTree)
  | union (items : List ClassTree)
  | binary (op : SetOp) (left right : ClassTree)

inductive Anchor where
  | lineStart | lineEnd | textStart | textEnd | wordBoundary | notWordBoundary
  | wordStart | wordEnd | wordStartHalf | wordEndHalf
deriving DecidableEq, Repr

inductive GroupKind where
  | capture (index : Nat)
  | plain (flags : List FlagItem)
deriving DecidableEq, Repr

-- A pattern as it is written, one constructor for each piece of syntax. Nothing is simplified here,
-- so the nesting of a tree is the nesting of its text. A character written as `\xNN` may stand for
-- a byte; `isByte` tells it.
inductive Tree where
  | empty
  | flags (items : List FlagItem)
  | char (c : Char) (isByte : Bool)
  | dot
  | anchor (kind : Anchor)
  | perl (kind : PerlClass) (negated : Bool)
  | property (wanted : Property) (negated : Bool)
  | bracket (negated : Bool) (body : ClassTree)
  | repeated (min : Nat) (max : Option Nat) (greedy : Bool) (body : Tree)
  | group (kind : GroupKind) (body : Tree)
  | alternation (branches : List Tree)
  | concat (parts : List Tree)

mutual

-- Levels of brackets, unions and operators.
def ClassTree.depth : ClassTree → Nat
  | .bracket _ body => body.depth + 1
  | .union items => ClassTree.depthAll items + 1
  | .binary _ left right => max left.depth right.depth + 1
  | _ => 0

def ClassTree.depthAll : List ClassTree → Nat
  | [] => 0
  | item :: rest => max item.depth (ClassTree.depthAll rest)

end

mutual

-- Levels of everything that holds something else.
def Tree.depth : Tree → Nat
  | .bracket _ body => body.depth + 1
  | .repeated _ _ _ body => body.depth + 1
  | .group _ body => body.depth + 1
  | .alternation branches => Tree.depthAll branches + 1
  | .concat parts => Tree.depthAll parts + 1
  | _ => 0

def Tree.depthAll : List Tree → Nat
  | [] => 0
  | tree :: rest => max tree.depth (Tree.depthAll rest)

end

end StackLexer.Regex
