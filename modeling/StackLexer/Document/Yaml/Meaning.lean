import StackLexer.Document.Decimal
import StackLexer.Document.Node
import StackLexer.Document.Yaml.Lexeme

namespace StackLexer.Yaml

def isNull (text : Text) : Bool :=
  ["~", "null", "Null", "NULL"].contains (String.ofList text)

def bool? (text : Text) : Option Bool :=
  if ["true", "True", "TRUE"].contains (String.ofList text) then some true
  else if ["false", "False", "FALSE"].contains (String.ofList text) then some false
  else none

-- Zeros in front of other digits make no number.
def isPadded (text : Text) : Bool :=
  let digits := match text with
    | '-' :: rest | '+' :: rest => rest
    | _ => text
  1 < digits.length && digits.head? == some '0' && digits.all Char.isDigit

-- A number without its sign, in base 16, 8, 2 or 10.
def natural? : Text → Option Nat
  | '0' :: 'x' :: rest => Text.digits? 16 rest
  | '0' :: 'o' :: rest => Text.digits? 8 rest
  | '0' :: 'b' :: rest => Text.digits? 2 rest
  | text => if isPadded text then none else Text.digits? 10 text

-- Integers have at most 128 bits.
def integer? (text : Text) : Option Meaning :=
  let natural (text : Text) : Option Meaning :=
    (natural? text).bind fun n => if n < Nat.pow 2 128 then some (.natural n) else none
  match text with
  | '-' :: rest =>
      (natural? rest).bind fun n => if n ≤ Nat.pow 2 127 then some (.negative n) else none
  | '+' :: rest => natural rest
  | _ => natural text

-- An exponent is left out or has digits.
def exponent? (text : Text) : Option Int :=
  match text with
  | [] => some 0
  | c :: rest =>
      if c = 'e' || c = 'E' then match rest with
        | '-' :: digits => (Text.digits? 10 digits).map fun n => -n
        | '+' :: digits => (Text.digits? 10 digits).map fun n => n
        | digits => (Text.digits? 10 digits).map fun n => n
      else none

-- A decimal without its sign: digits on either side of the point, and an exponent.
def decimal? (text : Text) : Option Decimal := do
  let whole := text.takeWhile Char.isDigit
  let rest := text.dropWhile Char.isDigit
  let (part, rest) := match rest with
    | '.' :: rest => (rest.takeWhile Char.isDigit, rest.dropWhile Char.isDigit)
    | _ => ([], rest)
  let digits ← Text.digits? 10 (whole ++ part)
  return ⟨digits, (← exponent? rest) - part.length⟩

-- Numbers are never written with an exponent.
def realStyle : RealStyle := ⟨-400, 400⟩

-- A number that need not be an integer, as it is shown. One that is too large is none.
def real? (text : Text) : Option Text :=
  let (negative, unsigned) := match text with
    | '-' :: rest => (true, rest)
    | '+' :: rest => (false, rest)
    | _ => (false, text)
  let isSigned := unsigned.length < text.length
  if [".inf", ".Inf", ".INF"].contains (String.ofList unsigned) then
    some ((if negative then "-inf" else "inf").toList)
  else if !isSigned && [".nan", ".NaN", ".NAN"].contains (String.ofList text) then
    some "NaN".toList
  else do
    let real ← Real.ofDecimal? negative (← decimal? unsigned)
    return real.write realStyle

-- What a text stands for on its own.
def plainMeaning (text : Text) : Meaning :=
  if text.isEmpty || isNull text then .null
  else match bool? text, integer? text with
    | some value, _ => .bool value
    | none, some value => value
    | none, none =>
        if isPadded text then .string text
        else match real? text with
          | some shown => .real shown
          | none => .string text

def coreTag (name : String) : Text := coreLead ++ name.toList

-- Tags of applications begin with an exclamation mark.
def isOwnTag (tag? : Option Text) : Bool := tag?.any fun tag => tag.head? == some '!'

-- A tag of the language wants the text to be of one kind, however it is written.
def coreMeaning? (tag text : Text) : Option Meant :=
  let wanted (name : String) (meaning? : Option Meaning) : Meant :=
    match meaning? with
    | some meaning => .ok meaning
    | none => .error (.wrongTag text name)
  if tag = coreTag "bool" then some (wanted "a boolean" ((bool? text).map .bool))
  else if tag = coreTag "int" then some (wanted "an integer" (integer? text))
  else if tag = coreTag "float" then some (wanted "a float" ((real? text).map .real))
  else if tag = coreTag "null" then
    some (wanted "null" (if isNull text then some .null else none))
  else none

-- What the text of a scalar stands for, with the tag in front of it.
def meaning (scalar : Scalar) : Meant :=
  match scalar.tag?.bind fun tag => coreMeaning? tag scalar.text with
  | some meant => meant
  | none =>
      let isTyped := scalar.tag?.isNone || isOwnTag scalar.tag?
      if isTyped && scalar.style == .plain then .ok (plainMeaning scalar.text)
      else .ok (.string scalar.text)

-- Where a boolean or a number is wanted, a plain scalar is read as one whatever its tag says, and
-- lines of text are if they have the tag for it.
def isReadAs (name : String) (scalar : Scalar) : Bool :=
  match scalar.style with
  | .plain => true
  | .literal => scalar.tag? == some (coreTag name)
  | _ => false

-- A natural number where one is wanted.
def count? (scalar : Scalar) : Option Nat :=
  match integer? scalar.text with
  | some (.natural n) => if n ≤ maxCount then some n else none
  | _ => none

end StackLexer.Yaml
