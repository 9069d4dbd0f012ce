import StackLexer.Text

namespace StackLexer

-- Counts fill 64 bits.
def maxCount : Nat := Nat.pow 2 64 - 1

namespace Text

-- The number that a run of digits writes in base `base`, read on from `read`. Digits past 9 are
-- letters of either case.
def digit? (base : Nat) (c : Char) : Option Nat :=
  let n := c.toNat
  let value :=
    if 0x30 ≤ n ∧ n ≤ 0x39 then n - 0x30
    else if 0x61 ≤ n ∧ n ≤ 0x7a then n - 0x61 + 10
    else if 0x41 ≤ n ∧ n ≤ 0x5a then n - 0x41 + 10
    else base
  if value < base then some value else none

def digitsFrom? (base : Nat) : Nat → Text → Option Nat
  | read, [] => some read
  | read, c :: rest => (digit? base c).bind fun d => digitsFrom? base (read * base + d) rest

def digits? (base : Nat) : Text → Option Nat
  | [] => none
  | text => digitsFrom? base 0 text

-- A count in decimal. A plus sign and leading zeros may stand in front.
def count? (text : Text) : Option Nat :=
  let unsigned := match text with
    | '+' :: rest => rest
    | _ => text
  (digits? 10 unsigned).bind fun n => if n ≤ maxCount then some n else none

end Text

end StackLexer
