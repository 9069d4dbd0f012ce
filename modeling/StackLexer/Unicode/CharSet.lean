namespace StackLexer

-- The code points from `lo` to `hi`, both included.
structure CharRange where
  lo : Nat
  hi : Nat
deriving DecidableEq, Repr

-- A set of characters as a list of ranges. The list is in canonical form when its ranges are
-- non-empty, in ascending order, and neither overlap nor touch. Membership stops at the first range
-- past the character, so it reads canonical lists only; every operation that combines sets gives
-- one.
structure CharSet where
  ranges : List CharRange
deriving DecidableEq, Repr

namespace CharSet

-- Joins the ranges of an ascending list that overlap or touch.
def mergeFrom (current : CharRange) : List CharRange → List CharRange
  | [] => [current]
  | range :: rest =>
      if range.lo ≤ current.hi + 1 then mergeFrom ⟨current.lo, max current.hi range.hi⟩ rest
      else current :: mergeFrom range rest

def merge : List CharRange → List CharRange
  | [] => []
  | range :: rest => mergeFrom range rest

-- The set of all code points in any of the ranges.
def ofRanges (ranges : List CharRange) : CharSet :=
  let inhabited := ranges.filter fun range => range.lo ≤ range.hi
  ⟨merge (inhabited.mergeSort fun a b => a.lo ≤ b.lo)⟩

def ofPairs (pairs : List (Nat × Nat)) : CharSet := ofRanges (pairs.map fun p => ⟨p.1, p.2⟩)

def empty : CharSet := ⟨[]⟩

def singleton (c : Char) : CharSet := ⟨[⟨c.toNat, c.toNat⟩]⟩

-- The characters of a range: all code points but the surrogates.
def all : CharSet := ⟨[⟨0, 0xd7ff⟩, ⟨0xe000, 0x10ffff⟩]⟩

def isEmpty (set : CharSet) : Bool := set.ranges.isEmpty

def memRanges (n : Nat) : List CharRange → Bool
  | [] => false
  | range :: rest => if n < range.lo then false else if n ≤ range.hi then true else memRanges n rest

def mem (set : CharSet) (c : Char) : Bool := memRanges c.toNat set.ranges

def union (a b : CharSet) : CharSet := ofRanges (a.ranges ++ b.ranges)

-- What two ascending lists of ranges have in common.
def interRanges : List CharRange → List CharRange → List CharRange
  | [], _ | _, [] => []
  | r :: rs, s :: ss =>
      let rest := if r.hi ≤ s.hi then interRanges rs (s :: ss) else interRanges (r :: rs) ss
      if max r.lo s.lo ≤ min r.hi s.hi then ⟨max r.lo s.lo, min r.hi s.hi⟩ :: rest else rest
termination_by a b => a.length + b.length

def inter (a b : CharSet) : CharSet := ⟨merge (interRanges a.ranges b.ranges)⟩

-- The code points from `start` up to `last` that an ascending list of ranges leaves out.
def gaps (start last : Nat) : List CharRange → List CharRange
  | [] => if start ≤ last then [⟨start, last⟩] else []
  | range :: rest =>
      if start < range.lo then ⟨start, range.lo - 1⟩ :: gaps (range.hi + 1) last rest
      else gaps (range.hi + 1) last rest

def compl (set : CharSet) : CharSet := inter all ⟨gaps 0 0x10ffff set.ranges⟩

def diff (a b : CharSet) : CharSet := inter a (compl b)

def symmDiff (a b : CharSet) : CharSet := diff (union a b) (inter a b)

def single? (set : CharSet) : Option Char :=
  match set.ranges with
  | [range] => if range.lo = range.hi then some (Char.ofNat range.lo) else none
  | _ => none

-- Fewest and most bytes of a member's UTF-8 form.
def minSize? (set : CharSet) : Option Nat :=
  set.ranges.head?.map fun range => (Char.ofNat range.lo).utf8Size

def maxSize? (set : CharSet) : Option Nat :=
  set.ranges.getLast?.map fun range => (Char.ofNat range.hi).utf8Size

def isAscii (set : CharSet) : Bool := set.ranges.all fun range => range.hi < 0x80

end CharSet

end StackLexer
