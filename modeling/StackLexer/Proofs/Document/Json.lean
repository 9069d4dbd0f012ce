import Mathlib.Tactic.SplitIfs
import StackLexer.Document.Json.Meaning
import StackLexer.Document.Json.Quoted

namespace StackLexer.Json

-- Data of JSON, with no numbers among them.
inductive Data where
  | null
  | flag (value : Bool)
  | string (value : String)
  | list (items : List Data)
  | record (fields : List (String × Data))

-- A text between the quotes of a string.
def quotedBody (text : Text) : Text := text.flatMap quotedChar

def keyNode (key : String) : Node := leaf (quotedBody key.toList) .quoted

namespace Data

mutual

def write : Data → Text
  | null => "null".toList
  | flag value => if value then "true".toList else "false".toList
  | string value => quoted value.toList
  | list [] => ['[', ']']
  | list (first :: rest) => '[' :: (first.write ++ writeItems rest)
  | record [] => ['\x7b', '\x7d']
  | record ((key, value) :: rest) =>
      '\x7b' :: (quoted key.toList ++ ':' :: (value.write ++ writeFields rest))

-- The items of a list from the second one on, and the closing bracket.
def writeItems : List Data → Text
  | [] => [']']
  | item :: rest => ',' :: (item.write ++ writeItems rest)

-- The fields of a record from the second one on, and the closing brace.
def writeFields : List (String × Data) → Text
  | [] => ['\x7d']
  | (key, value) :: rest =>
      ',' :: (quoted key.toList ++ ':' :: (value.write ++ writeFields rest))

end

mutual

def node : Data → Node
  | null => leaf "null".toList .plain
  | flag value => leaf (if value then "true".toList else "false".toList) .plain
  | string value => keyNode value
  | list items => .sequence none (itemNodes items)
  | record fields => .mapping none (fieldNodes fields)

def itemNodes : List Data → List Node
  | [] => []
  | item :: rest => item.node :: itemNodes rest

def fieldNodes : List (String × Data) → List (Node × Node)
  | [] => []
  | (key, value) :: rest => (keyNode key, value.node) :: fieldNodes rest

end

end Data

section Strings

-- The four digits of a control character.
theorem hexPad_four : ∀ n < 0x20,
    let digits := ['0', '0', Nat.digitChar (n / 16), Nat.digitChar (n % 16)]
    hexPad 4 n = digits ∧ digits.all isHexDigit = true ∧ Text.digits? 16 digits = some n := by
  decide

-- A character is written as itself, as a letter behind a backslash, or by its number.
inductive Quoting (c : Char) : Text → Prop where
  | plain (hquote : c ≠ '"') (hslash : c ≠ '\\') (hlow : 0x20 ≤ c.toNat) : Quoting c [c]
  | letter {d} (hletter : isSimpleEscape d = true) (hchar : simpleEscape d = c) :
      Quoting c ['\\', d]
  | number {a b d e} (hdigits : [a, b, d, e].all isHexDigit = true)
      (hchar : Text.digits? 16 [a, b, d, e] = some c.toNat) (hlow : c.toNat < 0x20) :
      Quoting c ['\\', 'u', a, b, d, e]

theorem quotedChar_quoting (c : Char) : Quoting c (quotedChar c) := by
  unfold quotedChar
  split_ifs with hquote hslash hback htab hline hfeed hreturn hlow
  -- The seven characters that have a letter.
  iterate 7
    · subst_vars
      exact .letter (by decide) (by decide)
  · obtain ⟨hpad, hdigits, hread⟩ := hexPad_four c.toNat hlow
    rw [hpad]
    exact .number hdigits hread hlow
  · exact .plain hquote hslash (Nat.not_lt.mp hlow)

theorem Quoting.stringBody? {c : Char} {written : Text} (h : Quoting c written) (rest : Text) :
    stringBody? (written ++ rest) =
      (Json.stringBody? rest).map fun read => (written ++ read.1, read.2) := by
  cases h with
  | plain hquote hslash hlow =>
    have hok : ¬(c.toNat < 0x20 || c = '\\') = true := by simp [hslash, hlow]
    rw [List.singleton_append, Json.stringBody?, if_neg hok]
    · rfl
    · exact hquote
    · exact fun _ _ _ _ _ h _ => hslash h
    · exact fun _ _ h _ => hslash h
  | @letter d hletter hchar =>
    have hne : d ≠ 'u' := by
      rintro rfl
      exact absurd hletter (by decide)
    rw [List.cons_append, List.singleton_append, Json.stringBody?, if_pos hletter]
    · rfl
    · exact fun _ _ _ _ _ h _ => hne h
  | number hdigits hchar hlow =>
    simp only [List.cons_append, List.nil_append, Json.stringBody?, hdigits, if_true]

theorem unit?_cons_ne {c : Char} (h : c ≠ '\\') (rest : Text) : unit? (c :: rest) = none := by
  unfold unit?
  split
  · rename_i heq
    exact absurd (List.cons.inj heq).1 h
  · rfl

theorem unit?_letter {d : Char} (h : d ≠ 'u') (rest : Text) : unit? ('\\' :: d :: rest) = none := by
  unfold unit?
  split
  · rename_i heq
    exact absurd (List.cons.inj (List.cons.inj heq).2).1 h
  · rfl

-- No control character is a surrogate.
theorem unitChar_low {c : Char} (h : c.toNat < 0x20) (rest : Text) :
    unitChar c.toNat rest = .ok (c, rest) := by
  have hlow : isLowSurrogate c.toNat = false := by simp [isLowSurrogate]; omega
  have hhigh : isHighSurrogate c.toNat = false := by simp [isHighSurrogate]; omega
  simp [unitChar, hlow, hhigh, Char.ofNat_toNat]

theorem Quoting.unescape {c : Char} {written : Text} (h : Quoting c written) (fuel : Nat)
    (rest : Text) :
    unescape (fuel + 1) (written ++ rest) = (c :: ·) <$> Json.unescape fuel rest := by
  cases h with
  | plain hquote hslash hlow =>
    rw [List.singleton_append, unescape.eq_def]
    simp only [unit?_cons_ne hslash]
    split
    · contradiction
    · exact absurd rfl hslash
    · rfl
  | @letter d hletter hchar =>
    have hne : d ≠ 'u' := by
      rintro rfl
      exact absurd hletter (by decide)
    rw [List.cons_append, List.singleton_append, unescape.eq_def]
    simp only [unit?_letter hne, hchar]
    rfl
  | number hdigits hchar hlow =>
    have hunit : unit? ('\\' :: 'u' :: _ :: _ :: _ :: _ :: rest) = some (c.toNat, rest) :=
      congrArg (Option.map (·, rest)) hchar
    simp only [List.cons_append, List.nil_append, Json.unescape, hunit, unitChar_low hlow]
    rfl

theorem stringBody?_quotedBody (text left : Text) :
    stringBody? (quotedBody text ++ '"' :: left) = some (quotedBody text, left) := by
  induction text with
  | nil => rfl
  | cons c text ih =>
    rw [quotedBody, List.flatMap_cons, List.append_assoc, (quotedChar_quoting c).stringBody?,
      ← quotedBody, ih]
    rfl

theorem length_quotedChar_pos (c : Char) : 0 < (quotedChar c).length := by
  have h := quotedChar_quoting c
  generalize quotedChar c = written at h
  cases h <;> simp

theorem unescape_quotedBody {text : Text} {fuel : Nat} (h : (quotedBody text).length ≤ fuel) :
    unescape fuel (quotedBody text) = .ok text := by
  induction text generalizing fuel with
  | nil => cases fuel <;> rfl
  | cons c text ih =>
    have hpos := length_quotedChar_pos c
    rw [quotedBody, List.flatMap_cons, ← quotedBody] at h ⊢
    rw [List.length_append] at h
    obtain ⟨less, rfl⟩ : ∃ less, fuel = less + 1 := ⟨fuel - 1, by omega⟩
    rw [(quotedChar_quoting c).unescape, ih (by omega)]
    rfl

-- A string stands for the text that it was written for.
theorem meaning_quoted (text : Text) :
    meaning ⟨quotedBody text, .quoted, none⟩ = .ok (.string text) := by
  rw [meaning]
  dsimp only
  rw [unescape_quotedBody (Nat.le_refl _)]
  rfl

end Strings

namespace Data

-- What is written starts with no blank and does not look like the end of a list.
theorem write_eq_cons (data : Data) :
    ∃ c rest, data.write = c :: rest ∧ isSpace c = false ∧ c ≠ ']' := by
  cases data with
  | null => exact ⟨_, _, rfl, by decide, by decide⟩
  | flag value => cases value <;> exact ⟨_, _, rfl, by decide, by decide⟩
  | string value => exact ⟨_, _, rfl, by decide, by decide⟩
  | list items => cases items <;> exact ⟨_, _, by rw [write], by decide, by decide⟩
  | record fields => cases fields <;> exact ⟨_, _, by rw [write], by decide, by decide⟩

theorem skipSpace_cons {c : Char} (h : isSpace c = false) (rest : Text) :
    skipSpace (c :: rest) = c :: rest :=
  List.dropWhile_cons_of_neg (by simp [h])

theorem skipSpace_write (data : Data) (left : Text) :
    skipSpace (data.write ++ left) = data.write ++ left := by
  obtain ⟨c, rest, hwrite, hspace, -⟩ := data.write_eq_cons
  rw [hwrite, List.cons_append, skipSpace_cons hspace]

-- What follows a bracket that is open, if it is not the end of the list.
theorem value?_items {fuel : Nat} {c : Char} {rest left : Text} {nodes : List Node}
    (hspace : isSpace c = false) (hend : c ≠ ']')
    (h : items? fuel (c :: rest) = some (nodes, left)) :
    value? (fuel + 1) ('[' :: c :: rest) = some (.sequence none nodes, left) := by
  have hopen : isSpace '[' = false := by decide
  simp only [value?, skipSpace_cons hopen, skipSpace_cons hspace]
  split
  · rename_i heq
    exact absurd (List.cons.inj heq).1 hend
  · rw [h]
    rfl

theorem value?_fields {fuel : Nat} {rest left : Text} {nodes : List (Node × Node)}
    (h : entries? fuel ('"' :: rest) = some (nodes, left)) :
    value? (fuel + 1) ('\x7b' :: '"' :: rest) = some (.mapping none nodes, left) := by
  have hopen : isSpace '\x7b' = false := by decide
  have hquote : isSpace '"' = false := by decide
  simp only [value?, skipSpace_cons hopen, skipSpace_cons hquote]
  split
  · rename_i heq
    exact absurd (List.cons.inj heq).1 (by decide)
  · rw [h]
    rfl

-- With this much fuel, everything that is no longer is read back, and what is left follows it.
structure ReadBack (fuel : Nat) : Prop where
  value : ∀ (data : Data) left, data.write.length ≤ fuel →
    value? fuel (data.write ++ left) = some (data.node, left)
  items : ∀ (first : Data) rest left, (first.write ++ writeItems rest).length ≤ fuel →
    items? fuel (first.write ++ writeItems rest ++ left) =
      some (first.node :: itemNodes rest, left)
  fields : ∀ (key : String) (value : Data) rest left,
    (quoted key.toList ++ ':' :: (value.write ++ writeFields rest)).length ≤ fuel →
    entries? fuel (quoted key.toList ++ ':' :: (value.write ++ writeFields rest) ++ left) =
      some ((keyNode key, value.node) :: fieldNodes rest, left)

theorem length_write_pos (data : Data) : 0 < data.write.length := by
  obtain ⟨c, rest, hwrite, -⟩ := data.write_eq_cons
  simp [hwrite]

theorem readBack_zero : ReadBack 0 where
  value data left h := by
    have hpos := data.length_write_pos
    omega
  items first rest left h := by
    have hpos := first.length_write_pos
    rw [List.length_append] at h
    omega
  fields key value rest left h := by
    rw [List.length_append, List.length_cons] at h
    omega

section Step

variable {fuel : Nat} (h : ReadBack fuel)

include h

theorem ReadBack.value_succ (data : Data) (left : Text) (hlength : data.write.length ≤ fuel + 1) :
    value? (fuel + 1) (data.write ++ left) = some (data.node, left) := by
  match data with
  | null => rfl
  | flag value => cases value <;> rfl
  | string value =>
    have hbody := stringBody?_quotedBody value.toList left
    rw [value?, skipSpace_write]
    simp only [write, quoted, List.cons_append, List.append_assoc, List.nil_append]
    rw [← quotedBody, hbody]
    rfl
  | list [] => rfl
  | list (first :: rest) =>
    have hitems := h.items first rest left (by simpa [write] using hlength)
    obtain ⟨c, tail, hfirst, hspace, hend⟩ := first.write_eq_cons
    rw [hfirst] at hitems
    rw [write, hfirst]
    exact value?_items hspace hend hitems
  | record [] => rfl
  | record ((key, value) :: rest) =>
    have hfields := h.fields key value rest left (by simpa [write] using hlength)
    rw [write]
    exact value?_fields hfields

theorem ReadBack.items_succ (first : Data) (rest : List Data) (left : Text)
    (hlength : (first.write ++ writeItems rest).length ≤ fuel + 1) :
    items? (fuel + 1) (first.write ++ writeItems rest ++ left) =
      some (first.node :: itemNodes rest, left) := by
  rw [List.length_append] at hlength
  cases rest with
  | nil =>
    rw [writeItems, List.length_singleton] at hlength
    rw [items?, List.append_assoc, h.value first _ (by omega)]
    rfl
  | cons item rest =>
    rw [writeItems, List.length_cons] at hlength
    have hcomma : isSpace ',' = false := by decide
    have hitems := h.items item rest left (by omega)
    rw [items?, List.append_assoc, h.value first _ (by omega), Option.bind_eq_bind,
      Option.bind_some]
    simp only [writeItems, List.cons_append, skipSpace_cons hcomma, hitems]
    rfl

theorem ReadBack.fields_succ (key : String) (value : Data) (rest : List (String × Data))
    (left : Text)
    (hlength : (quoted key.toList ++ ':' :: (value.write ++ writeFields rest)).length ≤ fuel + 1) :
    entries? (fuel + 1) (quoted key.toList ++ ':' :: (value.write ++ writeFields rest) ++ left) =
      some ((keyNode key, value.node) :: fieldNodes rest, left) := by
  rw [List.length_append, List.length_cons, List.length_append] at hlength
  have hquote : isSpace '"' = false := by decide
  have hcolon : isSpace ':' = false := by decide
  have hbody := stringBody?_quotedBody key.toList
    (':' :: (value.write ++ (writeFields rest ++ left)))
  have hvalue := h.value value (writeFields rest ++ left) (by omega)
  simp only [entries?, quoted, List.cons_append, List.append_assoc, List.nil_append,
    skipSpace_cons hquote]
  rw [← quotedBody, hbody]
  simp only [Option.bind_eq_bind, Option.bind_some, skipSpace_cons hcolon, Text.stripLead?,
    if_true, hvalue]
  cases rest with
  | nil => rfl
  | cons field rest =>
    rw [writeFields, List.length_cons] at hlength
    have hcomma : isSpace ',' = false := by decide
    have hfields := h.fields field.1 field.2 rest left (by omega)
    simp only [writeFields, List.cons_append, skipSpace_cons hcomma, hfields]
    rfl

end Step

theorem readBack (fuel : Nat) : ReadBack fuel := by
  induction fuel with
  | zero => exact readBack_zero
  | succ fuel ih => exact ⟨ih.value_succ, ih.items_succ, ih.fields_succ⟩

-- The tree of a text that is written.
theorem document?_write (data : Data) : document? data.write = some ⟨.json, data.node, #[]⟩ := by
  have hvalue := (readBack (2 * data.write.length + 2)).value data [] (by omega)
  rw [List.append_nil] at hvalue
  rw [document?, hvalue]
  rfl

end Data

end StackLexer.Json
