import StackLexer.Unicode.Addition

namespace StackLexer.Text

def hexDigits (n : Nat) : Text := Nat.toDigits 16 n

def isShown (c : Char) : Bool :=
  if c.toNat < 0x80 then 0x20 ≤ c.toNat && c.toNat < 0x7f
  else Unicode.shown.mem c

-- A quote and a backslash get a backslash in front; a null, a tab, a newline and a carriage return
-- are written by a letter. Marks that would join the character before them, and characters that do
-- not show, are written by their code point, as in `\u{301}`.
def quotedChar (c : Char) : Text :=
  if c = '"' then ['\\', '"']
  else if c = '\\' then ['\\', '\\']
  else if c = '\t' then ['\\', 't']
  else if c = '\n' then ['\\', 'n']
  else if c = '\x0d' then ['\\', 'r']
  else if c.toNat = 0 then ['\\', '0']
  else if isShown c then [c]
  else ['\\', 'u', '\x7b'] ++ hexDigits c.toNat ++ ['\x7d']

-- A text in double quotes, with escapes for everything a reader could not see or tell apart.
def quoted (text : Text) : Text := '"' :: text.flatMap quotedChar ++ ['"']

end StackLexer.Text
