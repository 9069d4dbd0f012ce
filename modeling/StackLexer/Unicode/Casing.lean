import StackLexer.Unicode.Listing

namespace StackLexer.Unicode

-- Characters in lower or upper case that are not letters of that case by category. By version 16 of
-- the Unicode Character Database, like all that follows.
def otherLowercase : Thunk CharSet := .mk fun _ => .ofLines [
    "aa ba 2b0-2b8 2c0-2c1 2e0-2e4 345 37a 10fc 1d2c-1d6a 1d78 1d9b-1dbf 2071 207f 2090-209c",
    "2170-217f 24d0-24e9 2c7c-2c7d a69c-a69d a770 a7f2-a7f4 a7f8-a7f9 ab5c-ab5f ab69 10780",
    "10783-10785 10787-107b0 107b2-107ba 1e030-1e06d"]

def otherUppercase : Thunk CharSet := .mk fun _ => .ofLines [
    "2160-216f 24b6-24cf 1f130-1f149 1f150-1f169 1f170-1f189"]

def lowercase : Thunk CharSet := .mk fun _ =>
  (Category.setOf (· == .lowercaseLetter)).union otherLowercase.get

def uppercase : Thunk CharSet := .mk fun _ =>
  (Category.setOf (· == .uppercaseLetter)).union otherUppercase.get

def titlecase : Thunk CharSet := .mk fun _ => Category.setOf (· == .titlecaseLetter)

def cased : Thunk CharSet := .mk fun _ => (lowercase.get.union uppercase.get).union titlecase.get

-- Characters in upper or title case that are their own lower case.
def withoutLowercase : Thunk CharSet := .mk fun _ => .ofLines [
    "3d2-3d4 2102 2107 210b-210d 2110-2112 2115 2119-211d 2124 2128 212c-212d 2130-2131 2133",
    "213e-213f 2145 1d400-1d419 1d434-1d44d 1d468-1d481 1d49c 1d49e-1d49f 1d4a2 1d4a5-1d4a6",
    "1d4a9-1d4ac 1d4ae-1d4b5 1d4d0-1d4e9 1d504-1d505 1d507-1d50a 1d50d-1d514 1d516-1d51c",
    "1d538-1d539 1d53b-1d53e 1d540-1d544 1d546 1d54a-1d550 1d56c-1d585 1d5a0-1d5b9 1d5d4-1d5ed",
    "1d608-1d621 1d63c-1d655 1d670-1d689 1d6a8-1d6c0 1d6e2-1d6fa 1d71c-1d734 1d756-1d76e",
    "1d790-1d7a8 1d7ca 1f130-1f149 1f150-1f169 1f170-1f189"]

-- Characters in lower or title case that are their own upper case.
def withoutUppercase : Thunk CharSet := .mk fun _ => .ofLines [
    "aa ba 138 18d 1aa-1ab 1ba 1be 221 234-239 255 258 25a 25d-25f 262 267 26d-26e 270 273-274",
    "276-27c 27e-27f 281 284-286 28d-291 293 295-29c 29f-2b8 2c0-2c1 2e0-2e4 37a 3fc 560 588 10fc",
    "1d00-1d78 1d7a-1d7c 1d7e-1d8d 1d8f-1dbf 1e9c-1e9d 1e9f 2071 207f 2090-209c 210a 210e-210f",
    "2113 212f 2134 2139 213c-213d 2146-2149 2c71 2c74 2c77-2c7d 2ce4 a69c-a69d a730-a731",
    "a770-a778 a78e a795 a7af a7d3 a7d5 a7f2-a7f4 a7f8-a7fa ab30-ab52 ab54-ab5a ab5c-ab69 10780",
    "10783-10785 10787-107b0 107b2-107ba 1d41a-1d433 1d44e-1d454 1d456-1d467 1d482-1d49b",
    "1d4b6-1d4b9 1d4bb 1d4bd-1d4c3 1d4c5-1d4cf 1d4ea-1d503 1d51e-1d537 1d552-1d56b 1d586-1d59f",
    "1d5ba-1d5d3 1d5ee-1d607 1d622-1d63b 1d656-1d66f 1d68a-1d6a5 1d6c2-1d6da 1d6dc-1d6e1",
    "1d6fc-1d714 1d716-1d71b 1d736-1d74e 1d750-1d755 1d770-1d788 1d78a-1d78f 1d7aa-1d7c2",
    "1d7c4-1d7c9 1d7cb 1df00-1df09 1df0b-1df1e 1df25-1df2a 1e030-1e06d"]

def changesWhenLowercased : Thunk CharSet := .mk fun _ =>
  (uppercase.get.union titlecase.get).diff withoutLowercase.get

def changesWhenUppercased : Thunk CharSet := .mk fun _ =>
  (lowercase.get.union titlecase.get).diff withoutUppercase.get

-- Characters that change in only one of upper case and title case.
def titlecaseExceptions : Thunk CharSet := .mk fun _ => .ofLines [
    "1c4-1c5 1c7-1c8 1ca-1cb 1f1-1f2 10d0-10fa 10fd-10ff 1f88-1f8f 1f98-1f9f 1fa8-1faf 1fbc 1fcc",
    "1ffc"]

def changesWhenTitlecased : Thunk CharSet := .mk fun _ =>
  changesWhenUppercased.get.symmDiff titlecaseExceptions.get

-- Characters that change when case is folded, but are not in upper case.
def foldedOnly : Thunk CharSet := .mk fun _ => .ofLines [
    "b5 df 149 17f 345 3c2 3d0-3d1 3d5-3d6 3f0-3f1 3f5 587 13f8-13fd 1c80-1c88 1e9a-1e9b",
    "1f80-1f87 1f90-1f97 1fa0-1fa7 1fb2-1fb4 1fb7 1fc2-1fc4 1fc7 1ff2-1ff4 1ff7 ab70-abbf",
    "fb00-fb06 fb13-fb17"]

-- The upper case of Cherokee is what its case folds to.
def changesWhenCasefolded : Thunk CharSet := .mk fun _ =>
  (changesWhenLowercased.get.union foldedOnly.get).diff (.ofLines ["13a0-13f5"])

def changesWhenCasemapped : Thunk CharSet := .mk fun _ =>
  (changesWhenLowercased.get.union changesWhenUppercased.get).union changesWhenTitlecased.get

def isCaseless : Category → Bool
  | .nonspacingMark | .enclosingMark | .format | .modifierLetter | .modifierSymbol => true
  | _ => false

-- Characters that are skipped where the case of their surroundings matters.
def caseIgnorable : Thunk CharSet := .mk fun _ =>
  (Category.setOf isCaseless).union (.ofLines [
    "27 2e 3a b7 387 55f 5f4 2018-2019 2024 2027 fe13 fe52 fe55 ff07 ff0e ff1a"])

-- Characters whose dot is lost below an accent.
def softDotted : Thunk CharSet := .mk fun _ => .ofLines [
    "69-6a 12f 249 268 29d 2b2 3f3 456 458 1d62 1d96 1da4 1da8 1e2d 1ecb 2071 2148-2149 2c7c",
    "1d422-1d423 1d456-1d457 1d48a-1d48b 1d4be-1d4bf 1d4f2-1d4f3 1d526-1d527 1d55a-1d55b",
    "1d58e-1d58f 1d5c2-1d5c3 1d5f6-1d5f7 1d62a-1d62b 1d65e-1d65f 1d692-1d693 1df1a 1e04c-1e04d",
    "1e068"]

def casing : List Listing := [
  ⟨["lower", "lowercase"], lowercase⟩,
  ⟨["upper", "uppercase"], uppercase⟩,
  ⟨["olower", "otherlowercase"], otherLowercase⟩,
  ⟨["oupper", "otheruppercase"], otherUppercase⟩,
  ⟨["cased"], cased⟩,
  ⟨["ci", "caseignorable"], caseIgnorable⟩,
  ⟨["cwl", "changeswhenlowercased"], changesWhenLowercased⟩,
  ⟨["cwu", "changeswhenuppercased"], changesWhenUppercased⟩,
  ⟨["cwt", "changeswhentitlecased"], changesWhenTitlecased⟩,
  ⟨["cwcf", "changeswhencasefolded"], changesWhenCasefolded⟩,
  ⟨["cwcm", "changeswhencasemapped"], changesWhenCasemapped⟩,
  ⟨["sd", "softdotted"], softDotted⟩]

end StackLexer.Unicode
