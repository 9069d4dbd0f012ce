import StackLexer.Unicode.CharSet

namespace StackLexer

-- The code points `first + k * stride` and `first + k * stride + shift` are equal up to case for
-- all `k < count`.
structure FoldRule where
  first : Nat
  count : Nat
  stride : Nat
  shift : Nat

namespace FoldRule

-- The code point is one of those the rule pairs with a larger one.
def covers (rule : FoldRule) (n : Nat) : Bool :=
  rule.first ≤ n && n < rule.first + rule.count * rule.stride &&
    (n - rule.first) % rule.stride == 0

def partners (rule : FoldRule) (n : Nat) : List Nat :=
  (if rule.covers n then [n + rule.shift] else []) ++
    (if rule.shift ≤ n && rule.covers (n - rule.shift) then [n - rule.shift] else [])

-- All pairs of the rule, the smaller code point first.
def pairs (rule : FoldRule) : List (Nat × Nat) :=
  (List.range rule.count).map fun k =>
    let low := rule.first + k * rule.stride
    (low, low + rule.shift)

end FoldRule

-- Simple case folding in version 16 of the Unicode Character Database. Characters with more than
-- one partner, such as `k`, `K` and the Kelvin sign, have a rule for every pair.
def foldRules : List FoldRule :=
  [⟨0x41, 26, 1, 32⟩, ⟨0x4b, 1, 1, 8415⟩, ⟨0x53, 1, 1, 300⟩, ⟨0x6b, 1, 1, 8383⟩,
   ⟨0x73, 1, 1, 268⟩, ⟨0xb5, 1, 1, 743⟩, ⟨0xb5, 1, 1, 775⟩, ⟨0xc0, 23, 1, 32⟩,
   ⟨0xc5, 1, 1, 8294⟩, ⟨0xd8, 7, 1, 32⟩, ⟨0xdf, 1, 1, 7615⟩, ⟨0xe5, 1, 1, 8262⟩,
   ⟨0xff, 1, 1, 121⟩, ⟨0x100, 24, 2, 1⟩, ⟨0x132, 3, 2, 1⟩, ⟨0x139, 8, 2, 1⟩, ⟨0x14a, 23, 2, 1⟩,
   ⟨0x179, 3, 2, 1⟩, ⟨0x180, 1, 1, 195⟩, ⟨0x181, 1, 1, 210⟩, ⟨0x182, 2, 2, 1⟩,
   ⟨0x186, 1, 1, 206⟩, ⟨0x187, 1, 1, 1⟩, ⟨0x189, 2, 1, 205⟩, ⟨0x18b, 1, 1, 1⟩, ⟨0x18e, 1, 1, 79⟩,
   ⟨0x18f, 1, 1, 202⟩, ⟨0x190, 1, 1, 203⟩, ⟨0x191, 1, 1, 1⟩, ⟨0x193, 1, 1, 205⟩,
   ⟨0x194, 1, 1, 207⟩, ⟨0x195, 1, 1, 97⟩, ⟨0x196, 1, 1, 211⟩, ⟨0x197, 1, 1, 209⟩,
   ⟨0x198, 1, 1, 1⟩, ⟨0x19a, 1, 1, 163⟩, ⟨0x19b, 1, 1, 42561⟩, ⟨0x19c, 1, 1, 211⟩,
   ⟨0x19d, 1, 1, 213⟩, ⟨0x19e, 1, 1, 130⟩, ⟨0x19f, 1, 1, 214⟩, ⟨0x1a0, 3, 2, 1⟩,
   ⟨0x1a6, 1, 1, 218⟩, ⟨0x1a7, 1, 1, 1⟩, ⟨0x1a9, 1, 1, 218⟩, ⟨0x1ac, 1, 1, 1⟩,
   ⟨0x1ae, 1, 1, 218⟩, ⟨0x1af, 1, 1, 1⟩, ⟨0x1b1, 2, 1, 217⟩, ⟨0x1b3, 2, 2, 1⟩,
   ⟨0x1b7, 1, 1, 219⟩, ⟨0x1b8, 1, 1, 1⟩, ⟨0x1bc, 1, 1, 1⟩, ⟨0x1bf, 1, 1, 56⟩, ⟨0x1c4, 2, 1, 1⟩,
   ⟨0x1c4, 1, 1, 2⟩, ⟨0x1c7, 2, 1, 1⟩, ⟨0x1c7, 1, 1, 2⟩, ⟨0x1ca, 2, 1, 1⟩, ⟨0x1ca, 1, 1, 2⟩,
   ⟨0x1cd, 8, 2, 1⟩, ⟨0x1de, 9, 2, 1⟩, ⟨0x1f1, 2, 1, 1⟩, ⟨0x1f1, 1, 1, 2⟩, ⟨0x1f4, 1, 1, 1⟩,
   ⟨0x1f8, 20, 2, 1⟩, ⟨0x222, 9, 2, 1⟩, ⟨0x23a, 1, 1, 10795⟩, ⟨0x23b, 1, 1, 1⟩,
   ⟨0x23e, 1, 1, 10792⟩, ⟨0x23f, 2, 1, 10815⟩, ⟨0x241, 1, 1, 1⟩, ⟨0x244, 1, 1, 69⟩,
   ⟨0x245, 1, 1, 71⟩, ⟨0x246, 5, 2, 1⟩, ⟨0x250, 1, 1, 10783⟩, ⟨0x251, 1, 1, 10780⟩,
   ⟨0x252, 1, 1, 10782⟩, ⟨0x25c, 1, 1, 42319⟩, ⟨0x261, 1, 1, 42315⟩, ⟨0x264, 1, 1, 42343⟩,
   ⟨0x265, 1, 1, 42280⟩, ⟨0x266, 1, 1, 42308⟩, ⟨0x26a, 1, 1, 42308⟩, ⟨0x26b, 1, 1, 10743⟩,
   ⟨0x26c, 1, 1, 42305⟩, ⟨0x271, 1, 1, 10749⟩, ⟨0x27d, 1, 1, 10727⟩, ⟨0x282, 1, 1, 42307⟩,
   ⟨0x287, 1, 1, 42282⟩, ⟨0x29d, 1, 1, 42261⟩, ⟨0x29e, 1, 1, 42258⟩, ⟨0x345, 1, 1, 84⟩,
   ⟨0x345, 1, 1, 116⟩, ⟨0x345, 1, 1, 7289⟩, ⟨0x370, 2, 2, 1⟩, ⟨0x376, 1, 1, 1⟩,
   ⟨0x37b, 3, 1, 130⟩, ⟨0x37f, 1, 1, 116⟩, ⟨0x386, 1, 1, 38⟩, ⟨0x388, 3, 1, 37⟩,
   ⟨0x38c, 1, 1, 64⟩, ⟨0x38e, 2, 1, 63⟩, ⟨0x390, 1, 1, 7235⟩, ⟨0x391, 17, 1, 32⟩,
   ⟨0x392, 1, 1, 62⟩, ⟨0x395, 1, 1, 96⟩, ⟨0x398, 1, 1, 57⟩, ⟨0x398, 1, 1, 92⟩,
   ⟨0x399, 1, 1, 7205⟩, ⟨0x39a, 1, 1, 86⟩, ⟨0x3a0, 1, 1, 54⟩, ⟨0x3a1, 1, 1, 80⟩,
   ⟨0x3a3, 1, 1, 31⟩, ⟨0x3a3, 9, 1, 32⟩, ⟨0x3a6, 1, 1, 47⟩, ⟨0x3a9, 1, 1, 7549⟩,
   ⟨0x3b0, 1, 1, 7219⟩, ⟨0x3b2, 1, 1, 30⟩, ⟨0x3b5, 1, 1, 64⟩, ⟨0x3b8, 1, 1, 25⟩,
   ⟨0x3b8, 1, 1, 60⟩, ⟨0x3b9, 1, 1, 7173⟩, ⟨0x3ba, 1, 1, 54⟩, ⟨0x3c0, 1, 1, 22⟩,
   ⟨0x3c1, 1, 1, 48⟩, ⟨0x3c2, 1, 1, 1⟩, ⟨0x3c6, 1, 1, 15⟩, ⟨0x3c9, 1, 1, 7517⟩, ⟨0x3cf, 1, 1, 8⟩,
   ⟨0x3d1, 1, 1, 35⟩, ⟨0x3d8, 12, 2, 1⟩, ⟨0x3f2, 1, 1, 7⟩, ⟨0x3f7, 1, 1, 1⟩, ⟨0x3fa, 1, 1, 1⟩,
   ⟨0x400, 16, 1, 80⟩, ⟨0x410, 32, 1, 32⟩, ⟨0x412, 1, 1, 6254⟩, ⟨0x414, 1, 1, 6253⟩,
   ⟨0x41e, 1, 1, 6244⟩, ⟨0x421, 2, 1, 6242⟩, ⟨0x422, 1, 1, 6243⟩, ⟨0x42a, 1, 1, 6236⟩,
   ⟨0x432, 1, 1, 6222⟩, ⟨0x434, 1, 1, 6221⟩, ⟨0x43e, 1, 1, 6212⟩, ⟨0x441, 2, 1, 6210⟩,
   ⟨0x442, 1, 1, 6211⟩, ⟨0x44a, 1, 1, 6204⟩, ⟨0x460, 17, 2, 1⟩, ⟨0x462, 1, 1, 6181⟩,
   ⟨0x463, 1, 1, 6180⟩, ⟨0x48a, 27, 2, 1⟩, ⟨0x4c0, 1, 1, 15⟩, ⟨0x4c1, 7, 2, 1⟩,
   ⟨0x4d0, 48, 2, 1⟩, ⟨0x531, 38, 1, 48⟩, ⟨0x10a0, 38, 1, 7264⟩, ⟨0x10c7, 1, 1, 7264⟩,
   ⟨0x10cd, 1, 1, 7264⟩, ⟨0x10d0, 43, 1, 3008⟩, ⟨0x10fd, 3, 1, 3008⟩, ⟨0x13a0, 80, 1, 38864⟩,
   ⟨0x13f0, 6, 1, 8⟩, ⟨0x1c84, 1, 1, 1⟩, ⟨0x1c88, 1, 1, 35266⟩, ⟨0x1c88, 1, 1, 35267⟩,
   ⟨0x1c89, 1, 1, 1⟩, ⟨0x1d79, 1, 1, 35332⟩, ⟨0x1d7d, 1, 1, 3814⟩, ⟨0x1d8e, 1, 1, 35384⟩,
   ⟨0x1e00, 75, 2, 1⟩, ⟨0x1e60, 1, 1, 59⟩, ⟨0x1e61, 1, 1, 58⟩, ⟨0x1ea0, 48, 2, 1⟩,
   ⟨0x1f00, 8, 1, 8⟩, ⟨0x1f10, 6, 1, 8⟩, ⟨0x1f20, 8, 1, 8⟩, ⟨0x1f30, 8, 1, 8⟩, ⟨0x1f40, 6, 1, 8⟩,
   ⟨0x1f51, 4, 2, 8⟩, ⟨0x1f60, 8, 1, 8⟩, ⟨0x1f70, 2, 1, 74⟩, ⟨0x1f72, 4, 1, 86⟩,
   ⟨0x1f76, 2, 1, 100⟩, ⟨0x1f78, 2, 1, 128⟩, ⟨0x1f7a, 2, 1, 112⟩, ⟨0x1f7c, 2, 1, 126⟩,
   ⟨0x1f80, 8, 1, 8⟩, ⟨0x1f90, 8, 1, 8⟩, ⟨0x1fa0, 8, 1, 8⟩, ⟨0x1fb0, 2, 1, 8⟩, ⟨0x1fb3, 1, 1, 9⟩,
   ⟨0x1fc3, 1, 1, 9⟩, ⟨0x1fd0, 2, 1, 8⟩, ⟨0x1fe0, 2, 1, 8⟩, ⟨0x1fe5, 1, 1, 7⟩, ⟨0x1ff3, 1, 1, 9⟩,
   ⟨0x2132, 1, 1, 28⟩, ⟨0x2160, 16, 1, 16⟩, ⟨0x2183, 1, 1, 1⟩, ⟨0x24b6, 26, 1, 26⟩,
   ⟨0x2c00, 48, 1, 48⟩, ⟨0x2c60, 1, 1, 1⟩, ⟨0x2c67, 3, 2, 1⟩, ⟨0x2c72, 1, 1, 1⟩,
   ⟨0x2c75, 1, 1, 1⟩, ⟨0x2c80, 50, 2, 1⟩, ⟨0x2ceb, 2, 2, 1⟩, ⟨0x2cf2, 1, 1, 1⟩,
   ⟨0xa640, 23, 2, 1⟩, ⟨0xa680, 14, 2, 1⟩, ⟨0xa722, 7, 2, 1⟩, ⟨0xa732, 31, 2, 1⟩,
   ⟨0xa779, 2, 2, 1⟩, ⟨0xa77e, 5, 2, 1⟩, ⟨0xa78b, 1, 1, 1⟩, ⟨0xa790, 2, 2, 1⟩,
   ⟨0xa794, 1, 1, 48⟩, ⟨0xa796, 10, 2, 1⟩, ⟨0xa7b3, 1, 1, 928⟩, ⟨0xa7b4, 8, 2, 1⟩,
   ⟨0xa7c7, 2, 2, 1⟩, ⟨0xa7cc, 1, 1, 1⟩, ⟨0xa7d0, 1, 1, 1⟩, ⟨0xa7d6, 3, 2, 1⟩, ⟨0xa7f5, 1, 1, 1⟩,
   ⟨0xfb05, 1, 1, 1⟩, ⟨0xff21, 26, 1, 32⟩, ⟨0x10400, 40, 1, 40⟩, ⟨0x104b0, 36, 1, 40⟩,
   ⟨0x10570, 19, 2, 39⟩, ⟨0x10571, 5, 2, 39⟩, ⟨0x1057d, 7, 2, 39⟩, ⟨0x1058d, 3, 2, 39⟩,
   ⟨0x10595, 1, 1, 39⟩, ⟨0x10c80, 51, 1, 64⟩, ⟨0x10d50, 22, 1, 32⟩, ⟨0x118a0, 32, 1, 32⟩,
   ⟨0x16e40, 32, 1, 32⟩, ⟨0x1e900, 34, 1, 34⟩]

-- The other code points that equal `n` up to case.
def foldPartners (n : Nat) : List Nat := foldRules.flatMap fun rule => rule.partners n

-- The characters are equal up to case.
def equalUpToCase (a b : Char) : Bool := a == b || (foldPartners a.toNat).contains b.toNat

def foldPairs : List (Nat × Nat) := foldRules.flatMap FoldRule.pairs

-- The set with every character that equals a member up to case.
def CharSet.closeUnderCase (set : CharSet) : CharSet :=
  let added := foldPairs.flatMap fun (low, high) =>
    (if memRanges low set.ranges then [⟨high, high⟩] else []) ++
      (if memRanges high set.ranges then [⟨low, low⟩] else [])
  ofRanges (set.ranges ++ added)

end StackLexer
