import StackLexer.Document.Json.Tree

namespace StackLexer.Json

def simpleEscape (c : Char) : Char :=
  match c with
  | 'b' => '\x08'
  | 'f' => '\x0c'
  | 'n' => '\n'
  | 'r' => '\x0d'
  | 't' => '\t'
  | c => c

-- The unit of 16 bits that four digits write, and the text behind them.
def unit? : Text → Option (Nat × Text)
  | '\\' :: 'u' :: a :: b :: c :: d :: rest => (Text.digits? 16 [a, b, c, d]).map (·, rest)
  | _ => none

def isLowSurrogate (n : Nat) : Bool := 0xdc00 ≤ n && n < 0xe000

def isHighSurrogate (n : Nat) : Bool := 0xd800 ≤ n && n < 0xdc00

-- The character of one unit, or of two that are surrogates. `unit` is read, `rest` follows it.
def unitChar (unit : Nat) (rest : Text) : Except ScalarFault (Char × Text) :=
  if isLowSurrogate unit then .error .loneSurrogate
  else if !isHighSurrogate unit then .ok (Char.ofNat unit, rest)
  else match unit? rest with
    | none => .error .halfSurrogate
    | some (low, rest) =>
        if isLowSurrogate low then
          .ok (Char.ofNat (0x10000 + (unit - 0xd800) * 0x400 + (low - 0xdc00)), rest)
        else .error .loneSurrogate

-- The text that the characters between two quotes stand for.
def unescape : (fuel : Nat) → Text → Except ScalarFault Text
  | 0, _ | _ + 1, [] => .ok []
  | fuel + 1, c :: rest =>
      match unit? (c :: rest), c, rest with
      | some (unit, rest), _, _ => do
          let (c, rest) ← unitChar unit rest
          return c :: (← unescape fuel rest)
      | none, '\\', d :: rest => return simpleEscape d :: (← unescape fuel rest)
      | none, _, _ => return c :: (← unescape fuel rest)

-- What a scalar of a JSON text stands for.
def meaning (scalar : Scalar) : Meant :=
  match scalar.style with
  | .plain => match String.ofList scalar.text with
    | "null" => .ok .null
    | "true" => .ok (.bool true)
    | "false" => .ok (.bool false)
    | _ => match number? scalar.text with
      | some (number, _) => number.meaning
      | none => .ok (.string scalar.text)
  | _ => (unescape scalar.text.length scalar.text).map .string

end StackLexer.Json
