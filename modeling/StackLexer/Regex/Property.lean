import StackLexer.Regex.Tree
import StackLexer.Unicode.Age
import StackLexer.Unicode.Segment

namespace StackLexer.Regex

namespace Property

-- Names are compared without case, blanks, dashes, underscores and a leading `is`.
def normalize (name : Text) : String :=
  let lower := name.map Char.toLower
  let rest := (Text.stripLead? ['i', 's'] lower).getD lower
  let kept := rest.filter fun c => c.toNat < 0x80 && !(c == ' ' || c == '_' || c == '-')
  if kept == ['c'] && rest.length < lower.length then "isc" else String.ofList kept

def isCased : Category → Bool
  | .uppercaseLetter | .lowercaseLetter | .titlecaseLetter => true
  | _ => false

def isPunctuation : Category → Bool
  | .connectorPunctuation | .dashPunctuation | .openPunctuation | .closePunctuation
  | .initialPunctuation | .finalPunctuation | .otherPunctuation => true
  | _ => false

def isSymbol : Category → Bool
  | .mathSymbol | .currencySymbol | .modifierSymbol | .otherSymbol => true
  | _ => false

def isSeparator : Category → Bool
  | .spaceSeparator | .lineSeparator | .paragraphSeparator => true
  | _ => false

def isOther : Category → Bool
  | .control | .format | .privateUse | .unassigned => true
  | _ => false

-- The full names of single categories that differ from their constructors, or are aliases.
def categoryOfName? (name : String) : Option Category :=
  match name with
  | "uppercaseletter" => some .uppercaseLetter
  | "lowercaseletter" => some .lowercaseLetter
  | "titlecaseletter" => some .titlecaseLetter
  | "modifierletter" => some .modifierLetter
  | "otherletter" => some .otherLetter
  | "nonspacingmark" => some .nonspacingMark
  | "spacingmark" => some .spacingMark
  | "enclosingmark" => some .enclosingMark
  | "decimalnumber" | "digit" => some .decimalNumber
  | "letternumber" => some .letterNumber
  | "othernumber" => some .otherNumber
  | "connectorpunctuation" => some .connectorPunctuation
  | "dashpunctuation" => some .dashPunctuation
  | "openpunctuation" => some .openPunctuation
  | "closepunctuation" => some .closePunctuation
  | "initialpunctuation" => some .initialPunctuation
  | "finalpunctuation" => some .finalPunctuation
  | "otherpunctuation" => some .otherPunctuation
  | "mathsymbol" => some .mathSymbol
  | "currencysymbol" => some .currencySymbol
  | "modifiersymbol" => some .modifierSymbol
  | "othersymbol" => some .otherSymbol
  | "spaceseparator" => some .spaceSeparator
  | "lineseparator" => some .lineSeparator
  | "paragraphseparator" => some .paragraphSeparator
  | "control" | "cntrl" => some .control
  | "format" => some .format
  | "privateuse" => some .privateUse
  | "unassigned" => some .unassigned
  | _ => (Category.all.filter (· != .surrogate)).find? fun c => c.abbreviation == name

def categories? (name : String) : Option CharSet :=
  match name with
  | "any" => some .all
  | "assigned" => some (Category.setOf fun c => c != .unassigned && c != .surrogate)
  | "ascii" => some (.ofPairs [(0, 0x7f)])
  | "l" | "letter" => some (Category.setOf Unicode.isLetter)
  | "lc" | "casedletter" => some (Category.setOf isCased)
  | "m" | "mark" | "combiningmark" => some (Category.setOf Unicode.isMark)
  | "n" | "number" => some (Category.setOf Unicode.isNumber)
  | "p" | "punctuation" | "punct" => some (Category.setOf isPunctuation)
  | "s" | "symbol" => some (Category.setOf isSymbol)
  | "z" | "separator" => some (Category.setOf isSeparator)
  | "c" | "other" => some (Category.setOf isOther)
  | _ => (categoryOfName? name).map fun c => Category.setOf (· == c)

-- The set of a property that takes a value, and the value.
def valued? (name value : String) : Option CharSet :=
  match name with
  | "gc" | "generalcategory" => categories? value
  | "sc" | "script" => Unicode.ofScript? value
  | "scx" | "scriptextensions" => Unicode.ofScriptUse? value
  | "age" => Unicode.ofAge? value
  | "gcb" | "graphemeclusterbreak" => Unicode.Listing.chars? Unicode.graphemeBreaks value
  | "wb" | "wordbreak" => Unicode.Listing.chars? Unicode.wordBreaks value
  | "sb" | "sentencebreak" => Unicode.Listing.chars? Unicode.sentenceBreaks value
  | _ => none

-- The characters that have the property, if it is known. A name without a value is one of a
-- property, a category or a script.
def chars? : Property → Option CharSet
  | .letter c => categories? (normalize [c])
  | .named name =>
      let name := normalize name
      ((Unicode.ofName? name).or (categories? name)).or (Unicode.ofScript? name)
  | .valued name value => valued? (normalize name) (normalize value)

end Property

end StackLexer.Regex
