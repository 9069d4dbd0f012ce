import StackLexer.Unicode.Property

namespace StackLexer.Unicode

-- The characters that version 17 of the Unicode Character Database adds to version 16. Patterns go
-- by version 16; the names of their groups and the quoting of texts go by version 17. Ranges with
-- the letter of their category.
def additions : List String := [
  "88fO c5cO cdcO 1acf-1addN 1ae0-1aebN 20c1$ 2b96* a7ceU a7cfL a7d2U a7d4U a7f1M fbc3-fbd2*",
  "fd90-fd91* fdc8-fdce* 10940-10959O 10ec5M 10ec6-10ec7O 10ed0Q 10ed1-10ed8* 10efa-10efbN",
  "11b60N 11b61C 11b62-11b64N 11b65C 11b66N 11b67C 11db0-11dd8O 11dd9M 11dda-11ddbO 11de0-11de9D",
  "16ea0-16eb8U 16ebb-16ed3L 16ff2-16ff3M 16ff4-16ff6R 187f8-187ffO 18d09-18d1eO 18d80-18df2O",
  "1ccfa-1ccfc* 1ceba-1ced0* 1cee0-1ceef* 1cef0+ 1e6c0-1e6deO 1e6e0-1e6e2O 1e6e3N 1e6e4-1e6e5O",
  "1e6e6N 1e6e7-1e6edO 1e6ee-1e6efN 1e6f0-1e6f4O 1e6f5N 1e6feO 1e6ffM 1f6d8* 1f777-1f77a*",
  "1f8d0-1f8d8+ 1fa54-1fa57* 1fa8a* 1fa8e* 1fac8* 1facd* 1faea* 1faef* 1fbfa* 2b73a-2b73fO",
  "2cea2-2ceadO 323b0-33479O"]

-- The marks among them that are alphabetic.
def addedMarks : List String := ["10efa-10efb 11b60-11b67 1e6e3 1e6e6 1e6ee-1e6ef 1e6f5"]

def readAddition (text : Text) : CharRange × Category :=
  (readRange text.dropLast, (text.getLast?.bind Category.ofLetter?).getD .unassigned)

def readAdditions : List (CharRange × Category) :=
  additions.flatMap fun line => (Text.splitOn ' ' line.toList).map readAddition

-- The added characters whose category passes the test.
def added (test : Category → Bool) : List CharRange :=
  (readAdditions.filter fun addition => test addition.2).map Prod.fst

def withAdded (set : CharSet) (ranges : List CharRange) : CharSet :=
  .ofRanges (set.ranges ++ ranges)

def alphabeticOrAdded : CharSet :=
  withAdded alphabetic
    (added (fun c => isLetter c || c == .letterNumber) ++ readRanges addedMarks)

def numericOrAdded : CharSet := withAdded numeric (added isNumber)

-- Letters in the wide sense, and letters and numbers. ASCII is answered without the tables.

def isAlphabetic (c : Char) : Bool :=
  if c.toNat < 0x80 then asciiLetters.mem c else alphabeticOrAdded.mem c

def isAlphanumeric (c : Char) : Bool :=
  if c.toNat < 0x80 then asciiLetters.mem c || asciiDigits.mem c
  else alphabeticOrAdded.mem c || numericOrAdded.mem c

-- The sound marks of halfwidth Katakana extend a grapheme, but have a width of their own.
def halfwidthMarks : CharSet := ⟨[⟨0xff9e, 0xff9f⟩]⟩

-- Marks that join the character before them.
def joining : CharSet :=
  (withAdded graphemeExtenders (added isJoining)).diff halfwidthMarks

-- Characters that are seen on their own: neither controls, unassigned or private characters nor
-- separators, none that may be ignored, and no joining marks. The space, which is a separator, is
-- left out here too.
def shown : CharSet :=
  ((withAdded visible (added isVisible)).diff ignorable).diff joining

end StackLexer.Unicode
