namespace StackLexer

-- A text is the list of its characters, and an offset into it counts bytes of its UTF-8 form.
abbrev Text := List Char

-- A stretch of a text, from the byte `start` up to but not including the byte `stop`.
structure Span where
  start : Nat
  stop : Nat
deriving DecidableEq, Repr, Inhabited

namespace Span

def isEmpty (span : Span) : Bool := decide (span.stop ≤ span.start)

def shift (span : Span) (amount : Nat) : Span := ⟨span.start + amount, span.stop + amount⟩

end Span

-- A position between two characters, as a matcher sees it.
structure Place where
  offset : Nat
  before : Option Char
  after : Text
deriving DecidableEq, Repr

namespace Text

def size : Text → Nat
  | [] => 0
  | c :: rest => c.utf8Size + size rest

-- The text from an offset on. Like `take?`, it fails where the offset lies inside a character or
-- past the end.
def drop? : Text → Nat → Option Text
  | text, 0 => some text
  | [], _ + 1 => none
  | c :: rest, count + 1 =>
      if c.utf8Size ≤ count + 1 then drop? rest (count + 1 - c.utf8Size) else none

def take? : Text → Nat → Option Text
  | _, 0 => some []
  | [], _ + 1 => none
  | c :: rest, count + 1 =>
      if c.utf8Size ≤ count + 1 then (take? rest (count + 1 - c.utf8Size)).map (c :: ·) else none

-- An offset that lies between two characters, or at either end.
def isBoundary (text : Text) (offset : Nat) : Bool := (text.drop? offset).isSome

-- The part of the text that `span` covers, if both its ends are boundaries in order.
def slice? (text : Text) (span : Span) : Option Text :=
  if span.start ≤ span.stop then
    (text.drop? span.start).bind fun rest => rest.take? (span.stop - span.start)
  else none

def placeFrom? (offset : Nat) (before : Option Char) : Text → Nat → Option Place
  | text, 0 => some ⟨offset, before, text⟩
  | [], _ + 1 => none
  | c :: rest, count + 1 =>
      if c.utf8Size ≤ count + 1 then
        placeFrom? (offset + c.utf8Size) (some c) rest (count + 1 - c.utf8Size)
      else none

def place? (text : Text) (offset : Nat) : Option Place := placeFrom? 0 none text offset

-- The boundaries of the text in order, both ends included.
def boundaries (text : Text) : List Nat :=
  let rec go (offset : Nat) : Text → List Nat
    | [] => [offset]
    | c :: rest => offset :: go (offset + c.utf8Size) rest
  go 0 text

def splitOn (sep : Char) : Text → List Text
  | [] => [[]]
  | c :: rest =>
      if c = sep then [] :: splitOn sep rest
      else match splitOn sep rest with
        | [] => [[c]]
        | piece :: pieces => (c :: piece) :: pieces

-- The text without a leading `lead`, if it has one.
def stripLead? : Text → Text → Option Text
  | [], text => some text
  | _ :: _, [] => none
  | l :: lead, c :: rest => if l = c then stripLead? lead rest else none

end Text

-- Order of strings by their UTF-8 bytes. UTF-8 keeps the order of code points, so characters
-- can be compared instead.
def textBefore : Text → Text → Bool
  | [], _ => true
  | _ :: _, [] => false
  | a :: as, b :: bs =>
      if a.val < b.val then true else if b.val < a.val then false else textBefore as bs

end StackLexer
