import StackLexer.Regex.Expr
import StackLexer.Regex.Property
import StackLexer.Unicode.Folding

namespace StackLexer.Regex

structure Flags where
  caseInsensitive : Bool
  multiLine : Bool
  dotNewline : Bool
  swapGreed : Bool
  unicode : Bool
  crlf : Bool
deriving DecidableEq, Repr

namespace Flags

def set (flags : Flags) (flag : Flag) (value : Bool) : Flags :=
  match flag with
  | .caseInsensitive => { flags with caseInsensitive := value }
  | .multiLine => { flags with multiLine := value }
  | .dotNewline => { flags with dotNewline := value }
  | .swapGreed => { flags with swapGreed := value }
  | .unicode => { flags with unicode := value }
  | .crlf => { flags with crlf := value }
  | .verbose => flags

def update (flags : Flags) (value : Bool) : List FlagItem → Flags
  | [] => flags
  | .negation :: rest => update flags false rest
  | .flag flag :: rest => update (flags.set flag value) value rest

end Flags

namespace AsciiClass

def chars : AsciiClass → CharSet
  | .alnum => .ofPairs [(0x30, 0x39), (0x41, 0x5a), (0x61, 0x7a)]
  | .alpha => .ofPairs [(0x41, 0x5a), (0x61, 0x7a)]
  | .ascii => .ofPairs [(0x00, 0x7f)]
  | .blank => .ofPairs [(0x09, 0x09), (0x20, 0x20)]
  | .cntrl => .ofPairs [(0x00, 0x1f), (0x7f, 0x7f)]
  | .digit => .ofPairs [(0x30, 0x39)]
  | .graph => .ofPairs [(0x21, 0x7e)]
  | .lower => .ofPairs [(0x61, 0x7a)]
  | .print => .ofPairs [(0x20, 0x7e)]
  | .punct => .ofPairs [(0x21, 0x2f), (0x3a, 0x40), (0x5b, 0x60), (0x7b, 0x7e)]
  | .space => .ofPairs [(0x09, 0x0d), (0x20, 0x20)]
  | .upper => .ofPairs [(0x41, 0x5a)]
  | .word => .ofPairs [(0x30, 0x39), (0x41, 0x5a), (0x5f, 0x5f), (0x61, 0x7a)]
  | .xdigit => .ofPairs [(0x30, 0x39), (0x41, 0x46), (0x61, 0x66)]

end AsciiClass

namespace PerlClass

def chars (unicode : Bool) : PerlClass → CharSet
  | .digit => if unicode then Unicode.decimal else Unicode.asciiDigits
  | .space => if unicode then Unicode.blank else .ofPairs [(0x09, 0x0d), (0x20, 0x20)]
  | .word => if unicode then Unicode.word else Unicode.asciiWord

end PerlClass

namespace Expr

-- The other spelling of an ASCII letter.
def asciiPartner? (c : Char) : Option Char :=
  if c.isUpper then some c.toLower else if c.isLower then some c.toUpper else none

-- The ASCII letters of a set in both cases, and the rest of it.
def closeUnderAsciiCase (set : CharSet) : CharSet :=
  let letters := (List.range 26).flatMap fun k =>
    if set.mem (Char.ofNat (0x41 + k)) || set.mem (Char.ofNat (0x61 + k)) then
      [⟨0x41 + k, 0x41 + k⟩, ⟨0x61 + k, 0x61 + k⟩]
    else []
  .ofRanges (set.ranges ++ letters)

def closeCase (flags : Flags) (set : CharSet) : CharSet :=
  if flags.caseInsensitive then
    if flags.unicode then set.closeUnderCase else closeUnderAsciiCase set
  else set

-- The complement, where it is allowed: without Unicode it would hold bytes outside of ASCII.
def negate? (flags : Flags) (negated : Bool) (set : CharSet) : Option CharSet :=
  if negated then if flags.unicode then some set.compl else none else some set

-- Case is closed before the complement is taken.
def closeAndNegate? (flags : Flags) (negated : Bool) (set : CharSet) : Option CharSet :=
  negate? flags negated (closeCase flags set)

def perl? (flags : Flags) (kind : PerlClass) (negated : Bool) : Option CharSet :=
  negate? flags negated (kind.chars flags.unicode)

def property? (flags : Flags) (wanted : Property) (negated : Bool) : Option CharSet :=
  if flags.unicode then wanted.chars?.bind (closeAndNegate? flags negated) else none

mutual

-- The set of a class. Case is closed at every bracket and on both sides of an operator.
def classSet? (flags : Flags) : ClassTree → Option CharSet
  | .empty => some .empty
  | .char c => if flags.unicode || c.toNat < 0x80 then some (.singleton c) else none
  | .range a b =>
      if flags.unicode || b.toNat < 0x80 then some (.ofPairs [(a.toNat, b.toNat)]) else none
  | .ascii kind negated => closeAndNegate? flags negated kind.chars
  | .perl kind negated => perl? flags kind negated
  | .property wanted negated => property? flags wanted negated
  | .bracket negated body => (classSet? flags body).bind (closeAndNegate? flags negated)
  | .union items => (classRanges? flags items).map .ofRanges
  | .binary op left right => do
      let left := closeCase flags (← classSet? flags left)
      let right := closeCase flags (← classSet? flags right)
      match op with
      | .inter => return left.inter right
      | .diff => return left.diff right
      | .symmDiff => return left.symmDiff right

def classRanges? (flags : Flags) : List ClassTree → Option (List CharRange)
  | [] => some []
  | item :: rest => do return (← classSet? flags item).ranges ++ (← classRanges? flags rest)

end

def char? (flags : Flags) (c : Char) (isByte : Bool) : Option Expr :=
  if flags.unicode then
    match if flags.caseInsensitive then foldPartners c.toNat else [] with
    | [] => some (.literal [c])
    | partners => some (chars (.ofPairs ((c.toNat :: partners).map fun n => (n, n))))
  else if isByte && 0x80 ≤ c.toNat then none
  else match if flags.caseInsensitive then asciiPartner? c else none with
    | none => some (.literal [c])
    | some d => some (chars (.ofPairs [(c.toNat, c.toNat), (d.toNat, d.toNat)]))

def dot? (flags : Flags) : Option Expr :=
  if !flags.unicode then none
  else if flags.dotNewline then some (chars .all)
  else if flags.crlf then some (chars (CharSet.diff .all (.ofPairs [(0xa, 0xa), (0xd, 0xd)])))
  else some (chars (CharSet.diff .all (.ofPairs [(0xa, 0xa)])))

def ofAnchor (flags : Flags) : Anchor → Look
  | .lineStart => if flags.multiLine then .lineStart flags.crlf else .textStart
  | .lineEnd => if flags.multiLine then .lineEnd flags.crlf else .textEnd
  | .textStart => .textStart
  | .textEnd => .textEnd
  | .wordBoundary => .word .boundary flags.unicode
  | .notWordBoundary => .word .notBoundary flags.unicode
  | .wordStart => .word .start flags.unicode
  | .wordEnd => .word .stop flags.unicode
  | .wordStartHalf => .word .startHalf flags.unicode
  | .wordEndHalf => .word .stopHalf flags.unicode

mutual

-- Flags set inside a pattern hold from there to the end of the group around them, so they are
-- carried from left to right. Without the flag `unicode` a pattern that could match a byte outside
-- of ASCII is refused.
def ofTree? (flags : Flags) : Tree → Option (Expr × Flags)
  | .empty => some (.empty, flags)
  | .flags items => some (.empty, flags.update true items)
  | .char c isByte => (char? flags c isByte).map (·, flags)
  | .dot => (dot? flags).map (·, flags)
  | .anchor kind => some (.look (ofAnchor flags kind), flags)
  | .perl kind negated => (perl? flags kind negated).map fun set => (chars set, flags)
  | .property wanted negated => (property? flags wanted negated).map fun set => (chars set, flags)
  | .bracket negated body => do
      let set ← classSet? flags body
      return (chars (← closeAndNegate? flags negated set), flags)
  | .repeated min max greedy body => do
      let (body, flags) ← ofTree? flags body
      return (repeat_ min max (greedy != flags.swapGreed) body, flags)
  | .group (.capture index) body => do
      let (body, _) ← ofTree? flags body
      return (.group index body, flags)
  | .group (.plain items) body => do
      let (body, _) ← ofTree? (flags.update true items) body
      return (body, flags)
  | .alternation branches => do
      let (branches, flags) ← ofTrees? flags branches
      return (choice branches, flags)
  | .concat parts => do
      let (parts, flags) ← ofTrees? flags parts
      return (sequence parts, flags)

def ofTrees? (flags : Flags) : List Tree → Option (List Expr × Flags)
  | [] => some ([], flags)
  | tree :: rest => do
      let (expr, flags) ← ofTree? flags tree
      let (exprs, flags) ← ofTrees? flags rest
      return (expr :: exprs, flags)

end

end Expr

end StackLexer.Regex
