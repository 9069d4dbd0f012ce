import StackLexer.Unicode.CharSet

namespace StackLexer

-- The bytes from `lo` to `hi`, both included.
structure ByteRange where
  lo : UInt8
  hi : UInt8
deriving DecidableEq, Repr

namespace CharRange

-- The parts below a code point and from it on, if there are both.
def cutAt (n : Nat) (range : CharRange) : List CharRange :=
  if range.lo < n ∧ n ≤ range.hi then [⟨range.lo, n - 1⟩, ⟨n, range.hi⟩] else [range]

def withoutSurrogates (range : CharRange) : List CharRange :=
  [⟨range.lo, min range.hi 0xd7ff⟩, ⟨max range.lo 0xe000, range.hi⟩].filter fun r => r.lo ≤ r.hi

-- Cuts off what is not a whole block at either end. The blocks have `size` code points each.
def cutBlocks (size : Nat) (range : CharRange) : List CharRange :=
  let last := range.hi / size
  let cutTail (range : CharRange) : List CharRange :=
    if range.lo / size = last ∨ (range.hi + 1) % size = 0 then [range]
    else [⟨range.lo, last * size - 1⟩, ⟨last * size, range.hi⟩]
  if range.lo / size = last then [range]
  else if range.lo % size = 0 then cutTail range
  else
    let next := (range.lo / size + 1) * size
    ⟨range.lo, next - 1⟩ :: cutTail ⟨next, range.hi⟩

-- The parts with characters of one size, in which every byte but the first goes through all its
-- values or is one of those before it.
def byteParts (range : CharRange) : List CharRange :=
  range.withoutSurrogates.flatMap (cutAt 0x80) |>.flatMap (cutAt 0x800)
    |>.flatMap (cutAt 0x10000) |>.flatMap (fun part => if part.hi < 0x80 then [part]
      else (cutBlocks 0x40 part).flatMap (cutBlocks 0x1000) |>.flatMap (cutBlocks 0x40000))

def bytesOf (n : Nat) : List UInt8 := String.utf8EncodeChar (Char.ofNat n)

-- The byte strings of the characters, as products of ranges of bytes, in ascending order.
def byteStrings (range : CharRange) : List (List ByteRange) :=
  range.byteParts.map fun part => (bytesOf part.lo).zipWith ByteRange.mk (bytesOf part.hi)

end CharRange

-- A set of characters as a set of byte strings. Each range is cut into parts until a part is a
-- product: all strings that have one byte of a first range, then one of a second range, and so on.
def CharSet.byteStrings (set : CharSet) : List (List ByteRange) :=
  set.ranges.flatMap CharRange.byteStrings

end StackLexer
