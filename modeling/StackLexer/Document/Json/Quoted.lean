import StackLexer.Text

namespace StackLexer

namespace Json

def hexPad (width n : Nat) : Text :=
  let digits := Nat.toDigits 16 n
  List.replicate (width - digits.length) '0' ++ digits

-- Only quotes, backslashes and controls are escaped.
def quotedChar (c : Char) : Text :=
  if c = '"' then ['\\', '"']
  else if c = '\\' then ['\\', '\\']
  else if c = '\x08' then ['\\', 'b']
  else if c = '\t' then ['\\', 't']
  else if c = '\n' then ['\\', 'n']
  else if c = '\x0c' then ['\\', 'f']
  else if c = '\x0d' then ['\\', 'r']
  else if c.toNat < 0x20 then ['\\', 'u'] ++ hexPad 4 c.toNat
  else [c]

-- A text as a string of JSON.
def quoted (text : Text) : Text := '"' :: text.flatMap quotedChar ++ ['"']

end Json

end StackLexer
