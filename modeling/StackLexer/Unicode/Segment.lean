import StackLexer.Unicode.Binary
import StackLexer.Unicode.Script

namespace StackLexer.Unicode

def carriageReturn : Thunk CharSet := .mk fun _ => .ofLines ["d"]

def lineFeed : Thunk CharSet := .mk fun _ => .ofLines ["a"]

def joiner : Thunk CharSet := .mk fun _ => .ofLines ["200d"]

def regionalIndicator : Thunk CharSet := .mk fun _ => .ofLines ["1f1e6-1f1ff"]

def spacingMarks : Thunk CharSet := .mk fun _ => Category.setOf (· == .spacingMark)

-- Characters that extend a grapheme, but for the joiner, which is a part of its own.
def graphemeExtend : Thunk CharSet := .mk fun _ =>
  (graphemeExtenders.union emojiModifier.get).diff joiner.get

def isControl : Category → Bool
  | .control | .format | .lineSeparator | .paragraphSeparator => true
  | _ => false

-- Characters that no grapheme goes over.
def graphemeControl : Thunk CharSet := .mk fun _ =>
  let reserved := (Category.setOf (· == .unassigned)).inter ignorable
  ((Category.setOf isControl).union reserved).diff
    ((graphemeExtenders.union prependedMarks.get).union (.ofLines ["a d 200c-200d"]))

def graphemePrepend : Thunk CharSet := .mk fun _ =>
  prependedMarks.get.union (.ofLines [
    "d4e 111c2-111c3 113d1 1193f 11941 11a3a 11a84-11a89 11d46 11f02"])

-- Spacing marks, and two vowel signs that are letters, in the same grapheme as their base.
def graphemeSpacing : Thunk CharSet := .mk fun _ =>
  ((spacingMarks.get.diff graphemeExtenders).union (.ofLines ["e33 eb3"])).diff (.ofLines [
    "102b-102c 1038 1062-1064 1067-106d 1083 1087-108c 108f 109a-109c 1a61 1a63-1a64 aa7b aa7d",
    "11720-11721"])

-- Syllables of Hangul are in groups of 28 that begin with the one without a final consonant.
def hangulOpen : Thunk CharSet := .mk fun _ =>
  ⟨(List.range 399).map fun k => ⟨0xac00 + 28 * k, 0xac00 + 28 * k⟩⟩

def hangulClosed : Thunk CharSet := .mk fun _ =>
  ⟨(List.range 399).map fun k => ⟨0xac01 + 28 * k, 0xac1b + 28 * k⟩⟩

-- The part that characters play where a text is cut into graphemes, in version 16 of the Unicode
-- Character Database. A character that plays none is in no set.
def graphemeBreaks : List Listing := [
  ⟨["cr"], carriageReturn⟩,
  ⟨["lf"], lineFeed⟩,
  ⟨["zwj"], joiner⟩,
  ⟨["ri", "regionalindicator"], regionalIndicator⟩,
  ⟨["cn", "control"], graphemeControl⟩,
  ⟨["ex", "extend"], graphemeExtend⟩,
  ⟨["pp", "prepend"], graphemePrepend⟩,
  ⟨["sm", "spacingmark"], graphemeSpacing⟩,
  ⟨["l"], .mk fun _ => .ofLines ["1100-115f a960-a97c"]⟩,
  ⟨["v"], .mk fun _ => .ofLines ["1160-11a7 d7b0-d7c6 16d63 16d67-16d6a"]⟩,
  ⟨["t"], .mk fun _ => .ofLines ["11a8-11ff d7cb-d7fb"]⟩,
  ⟨["lv"], hangulOpen⟩,
  ⟨["lvt"], hangulClosed⟩]

def wordExtend : Thunk CharSet := .mk fun _ =>
  (graphemeExtend.get.union spacingMarks.get).diff joiner.get

def formats : Thunk CharSet := .mk fun _ =>
  (Category.setOf (· == .format)).diff
    ((graphemeExtenders.union prependedMarks.get).union joiner.get)

def wordFormat : Thunk CharSet := .mk fun _ => formats.get.diff (.ofLines ["200b"])

def inScript (name : String) : CharSet := (ofScript? name).getD .empty

def katakana : Thunk CharSet := .mk fun _ =>
  (inScript "kana").union (.ofLines ["3031-3035 309b-309c 30a0 30fc ff70"])

def hebrew : Thunk CharSet := .mk fun _ =>
  (inScript "hebr").inter (Category.setOf (· == .otherLetter))

-- The Syriac mark of an abbreviation stands before letters, the other signs before digits.
def abbreviationMark : Thunk CharSet := .mk fun _ => .ofLines ["70f"]

def digits : Thunk CharSet := .mk fun _ =>
  (decimal.union prependedMarks.get).diff abbreviationMark.get

-- Characters of the scripts that put no blanks between words, so that their words have to be known.
def unspaced : Thunk CharSet := .mk fun _ => .ofLines [
    "e01-e3a e40-e4e e81-e82 e84 e86-e8a e8c-ea3 ea5 ea7-ebd ec0-ec4 ec6 ec8-ece edc-edf",
    "1000-103f 1050-108f 109a-109f 1780-17d3 17d7 17dc-17dd 1950-196d 1970-1974 1980-19ab",
    "19b0-19c9 19da 19de-19df 1a20-1a5e 1a60-1a7c 1aa0-1aad a9e0-a9ef a9fa-a9fe aa60-aac2",
    "aadb-aadf 11700-1171a 1171d-1172b 1173a-1173b 1173f-11746"]

-- Letters of words that are told apart by blanks.
def wordLetter : Thunk CharSet := .mk fun _ =>
  let others := ((ideographic.get.union katakana.get).union (inScript "hira")).union
    ((unspaced.get.union wordExtend.get).union hebrew.get)
  ((alphabetic.diff others).union abbreviationMark.get).union (.ofLines [
    "2c2-2c5 2d2-2d7 2de-2df 2e5-2eb 2ed 2ef-2ff 55a-55c 55e 58a 5f3 a708-a716 a720-a721 a789-a78a",
    "ab5b"])

def wordBreaks : List Listing := [
  ⟨["cr"], carriageReturn⟩,
  ⟨["lf"], lineFeed⟩,
  ⟨["nl", "newline"], .mk fun _ => .ofLines ["b-c 85 2028-2029"]⟩,
  ⟨["zwj"], joiner⟩,
  ⟨["ri", "regionalindicator"], regionalIndicator⟩,
  ⟨["extend"], wordExtend⟩,
  ⟨["fo", "format"], wordFormat⟩,
  ⟨["ka", "katakana"], katakana⟩,
  ⟨["hl", "hebrewletter"], hebrew⟩,
  ⟨["le", "aletter"], wordLetter⟩,
  ⟨["sq", "singlequote"], .mk fun _ => .ofLines ["27"]⟩,
  ⟨["dq", "doublequote"], .mk fun _ => .ofLines ["22"]⟩,
  ⟨["mb", "midnumlet"], .mk fun _ => .ofLines ["2e 2018-2019 2024 fe52 ff07 ff0e"]⟩,
  ⟨["ml", "midletter"], .mk fun _ => .ofLines ["3a b7 387 55f 5f4 2027 fe13 fe55 ff1a"]⟩,
  ⟨["mn", "midnum"], .mk fun _ => .ofLines [
    "2c 3b 37e 589 60c-60d 66c 7f8 2044 fe10 fe14 fe50 fe54 ff0c ff1b"]⟩,
  ⟨["nu", "numeric"], .mk fun _ => digits.get.union (.ofLines ["66b"])⟩,
  ⟨["ex", "extendnumlet"], .mk fun _ =>
    (Category.setOf (· == .connectorPunctuation)).union (.ofLines ["202f"])⟩,
  ⟨["wsegspace"], .mk fun _ => .ofLines ["20 1680 2000-2006 2008-200a 205f 3000"]⟩]

def sentenceExtend : Thunk CharSet := .mk fun _ =>
  (graphemeExtenders.union spacingMarks.get).union joiner.get

-- Georgian has letters in both cases, but its sentences do not begin with one in upper case.

def sentenceLower : Thunk CharSet := .mk fun _ =>
  (lowercase.get.diff graphemeExtenders).diff (.ofLines ["10d0-10fa 10fd-10ff"])

def sentenceUpper : Thunk CharSet := .mk fun _ =>
  (uppercase.get.union titlecase.get).diff (.ofLines ["1c90-1cbf"])

def sentenceLetter : Thunk CharSet := .mk fun _ =>
  ((alphabetic.union (.ofLines ["5f3"])).diff
    ((sentenceLower.get.union sentenceUpper.get).union sentenceExtend.get)).union
      abbreviationMark.get

-- Full stops, which end numbers and abbreviations, too.
def fullStops : Thunk CharSet := .mk fun _ => .ofLines ["2e 2024 fe52 ff0e"]

def isBracket : Category → Bool
  | .openPunctuation | .closePunctuation | .initialPunctuation | .finalPunctuation => true
  | _ => false

def sentenceBreaks : List Listing := [
  ⟨["cr"], carriageReturn⟩,
  ⟨["lf"], lineFeed⟩,
  ⟨["se", "sep"], .mk fun _ => .ofLines ["85 2028-2029"]⟩,
  ⟨["ex", "extend"], sentenceExtend⟩,
  ⟨["fo", "format"], formats⟩,
  ⟨["sp"], .mk fun _ => blank.diff (.ofLines ["a d 85 2028-2029"])⟩,
  ⟨["lo", "lower"], sentenceLower⟩,
  ⟨["up", "upper"], sentenceUpper⟩,
  ⟨["le", "oletter"], sentenceLetter⟩,
  ⟨["nu", "numeric"], .mk fun _ => digits.get.union (.ofLines ["66b-66c"])⟩,
  ⟨["at", "aterm"], fullStops⟩,
  ⟨["st", "sterm"], .mk fun _ => sentenceTerminal.get.diff fullStops.get⟩,
  ⟨["sc", "scontinue"], .mk fun _ => .ofLines [
    "2c-2d 3a-3b 37e 55d 60c-60d 7f8 1802 1808 2013-2014 3001 fe10-fe11 fe13-fe14 fe31-fe32",
    "fe50-fe51 fe54-fe55 fe58 fe63 ff0c-ff0d ff1a-ff1b ff64"]⟩,
  ⟨["cl", "close"], .mk fun _ => (Category.setOf isBracket).union (.ofLines [
    "22 27 275b-2760 2e00-2e01 2e06-2e08 2e0b 1f676-1f678"])⟩]

end StackLexer.Unicode
