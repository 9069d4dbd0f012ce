import StackLexer.Unicode.Listing

namespace StackLexer.Unicode

def patternSyntax : Thunk CharSet := .mk fun _ => .ofLines [
    "21-2f 3a-40 5b-5e 60 7b-7e a1-a7 a9 ab-ac ae b0-b1 b6 bb bf d7 f7 2010-2027 2030-203e",
    "2041-2053 2055-205e 2190-245f 2500-2775 2794-2bff 2e00-2e7f 3001-3003 3008-3020 3030",
    "fd3e-fd3f fe45-fe46"]

def patternBlank : Thunk CharSet := .mk fun _ => .ofLines ["9-d 20 85 200e-200f 2028-2029"]

-- Characters that begin or continue an identifier although their category does not say so.
def otherStarts : Thunk CharSet := .mk fun _ => .ofLines ["1885-1886 2118 212e 309b-309c"]

def otherContinuations : Thunk CharSet := .mk fun _ => .ofLines [
    "b7 387 1369-1371 19da 200c-200d 30fb ff65"]

def identifierStart : Thunk CharSet := .mk fun _ =>
  ((Category.setOf fun c => isLetter c || c == .letterNumber).union otherStarts.get).diff
    (patternSyntax.get.union patternBlank.get)

def isContinuation : Category → Bool
  | .nonspacingMark | .spacingMark | .decimalNumber | .connectorPunctuation => true
  | _ => false

def identifierContinue : Thunk CharSet := .mk fun _ =>
  (identifierStart.get.union ((Category.setOf isContinuation).union otherContinuations.get)).diff
    (patternSyntax.get.union patternBlank.get)

-- Characters whose compatible form begins with a blank or a mark. Without them, the identifiers
-- stay identifiers when that form is taken.
def unstable : Thunk CharSet := .mk fun _ => .ofLines [
    "37a 309b-309c fc5e-fc63 fdfa-fdfb fe70 fe72 fe74 fe76 fe78 fe7a fe7c fe7e"]

def stableStart : Thunk CharSet := .mk fun _ =>
  identifierStart.get.diff (unstable.get.union (.ofLines ["e33 eb3 ff9e-ff9f"]))

def stableContinue : Thunk CharSet := .mk fun _ => identifierContinue.get.diff unstable.get

-- Mathematical signs in identifiers.
def mathStart : Thunk CharSet := .mk fun _ => .ofLines [
    "2202 2207 221e 1d6c1 1d6db 1d6fb 1d715 1d735 1d74f 1d76f 1d789 1d7a9 1d7c3"]

def mathContinue : Thunk CharSet := .mk fun _ =>
  mathStart.get.union (.ofLines ["b2-b3 b9 2070 2074-207e 2080-208e"])

-- The characters of identifiers, and those that patterns and programs keep for their own signs, in
-- version 16 of the Unicode Character Database.
def identifiers : List Listing := [
  ⟨["patsyn", "patternsyntax"], patternSyntax⟩,
  ⟨["patws", "patternwhitespace"], patternBlank⟩,
  ⟨["oids", "otheridstart"], otherStarts⟩,
  ⟨["oidc", "otheridcontinue"], otherContinuations⟩,
  ⟨["ids", "idstart"], identifierStart⟩,
  ⟨["idc", "idcontinue"], identifierContinue⟩,
  ⟨["xids", "xidstart"], stableStart⟩,
  ⟨["xidc", "xidcontinue"], stableContinue⟩,
  ⟨["idcompatmathstart"], mathStart⟩,
  ⟨["idcompatmathcontinue"], mathContinue⟩]

end StackLexer.Unicode
