import StackLexer.Regex.Reader.Atom

namespace StackLexer

namespace Words

-- The pattern that matches `text` and nothing else.
def escape : Text → Text
  | [] => []
  | c :: rest => if Regex.isMeta c then '\\' :: c :: escape rest else c :: escape rest

-- More bytes first; words of one length in the order of their bytes.
def before (a b : Text) : Bool :=
  if a.size = b.size then textBefore a b else decide (b.size < a.size)

-- Drops every word that repeats the one in front of it.
def dedup : List Text → List Text
  | a :: b :: rest => if a = b then dedup (b :: rest) else a :: dedup (b :: rest)
  | words => words

def arrange (words : List Text) : List Text := dedup (words.mergeSort before)

end Words

-- `lead(?:w1|w2|...)trail`, with the words escaped. Longer words stand first, so that under
-- first-match order `int` is not cut short by `in`.
def words (list : List String) (lead trail : String) : String :=
  let escaped := (Words.arrange (list.map String.toList)).map Words.escape
  lead ++ "(?:" ++ String.ofList (List.intercalate ['|'] escaped) ++ ")" ++ trail

end StackLexer
