import StackLexer.Cli
import StackLexer.Proofs.Document.Json
import StackLexer.Proofs.Loader.Notation
import StackLexer.Proofs.Text.Quoted

namespace StackLexer

theorem Json.quoted_selfDelimiting : SelfDelimiting Json.quoted := by
  intro a b rest rest' heq
  have hbody : quotedBody a ++ '"' :: rest = quotedBody b ++ '"' :: rest' := by
    simpa [quoted, quotedBody] using heq
  have hread := (stringBody?_quotedBody a rest).symm.trans
    ((congrArg stringBody? hbody).trans (stringBody?_quotedBody b rest'))
  obtain ⟨hsame, rfl⟩ := Prod.mk.inj (Option.some.inj hread)
  have hvalue := unescape_quotedBody (Nat.le_refl (quotedBody a).length)
  rw [hsame, unescape_quotedBody (Nat.le_refl _)] at hvalue
  exact ⟨(Except.ok.inj hvalue).symm, rfl⟩

namespace Kind

-- A kind in a column, and a blank that ends it.
def column (width : Nat) (kind : Kind) : Text :=
  Text.padRight width kind.dottedName.toList ++ [' ']

theorem column_selfDelimiting (width : Nat) : SelfDelimiting (column width) := by
  have hname : SelfDelimiting fun kind : Kind => kind.dottedName.toList ++ [' '] :=
    .of_mark dottedName_injective fun kind => kind.notMem_dottedName.1
  have hcolumn (kind : Kind) : column width kind = kind.dottedName.toList ++ [' '] ++
      List.replicate (width - kind.dottedName.toList.length) ' ' := by
    rw [column, Text.padRight, List.append_assoc, List.append_assoc, List.singleton_append,
      ← List.replicate_succ, ← List.replicate_succ']
  have htrail := hname.trail fun kind =>
    List.replicate (width - kind.dottedName.toList.length) ' '
  intro a b rest rest' heq
  rw [hcolumn, hcolumn] at heq
  exact htrail heq

end Kind

namespace Text

-- A number at the right of a column, and a blank that ends it.
theorem offset_selfDelimiting (width : Nat) :
    SelfDelimiting fun n : Nat => padLeft width (Nat.toDigits 10 n) ++ [' '] := by
  have hdigits : SelfDelimiting fun n : Nat => Nat.toDigits 10 n ++ [' '] :=
    toDigits_selfDelimiting (by decide)
  have hhead (n : Nat) : ∃ c rest, Nat.toDigits 10 n ++ [' '] = c :: rest ∧ c ≠ ' ' := by
    obtain ⟨c, rest, hn⟩ := List.exists_cons_of_ne_nil (Nat.toDigits_ne_nil (b := 10) (n := n))
    refine ⟨c, rest ++ [' '], by rw [hn, List.cons_append], ?_⟩
    rintro rfl
    have hdigit := isDigit_toDigits (n := n) ' ' (by simp [hn])
    exact absurd hdigit (by decide)
  have hblanks := hdigits.blanks (fun n => width - (Nat.toDigits 10 n).length) hhead
  intro m n rest rest' heq
  exact hblanks (by simpa [padLeft] using heq)

-- A mark ends a piece that does not have it.
theorem splitOn_append {mark : Char} {first : Text} (h : mark ∉ first) (rest : Text) :
    splitOn mark (first ++ mark :: rest) = first :: splitOn mark rest := by
  induction first with
  | nil => rw [List.nil_append, splitOn, if_pos rfl]
  | cons c first ih =>
    obtain ⟨hne, hfirst⟩ := List.ne_and_not_mem_of_not_mem_cons h
    rw [List.cons_append, splitOn, if_neg (Ne.symm hne), ih hfirst]

end Text

namespace Token

-- A line of the dump that shows kinds and texts, without its end.
def rendered (token : Token) : Text := token.kind.column 16 ++ Text.quoted token.text

theorem renderLine_eq (token : Token) : token.renderLine = token.rendered ++ ['\n'] := by
  simp [renderLine, rendered, Kind.column]

theorem newline_notMem_rendered (token : Token) : '\n' ∉ token.rendered := by
  simp [rendered, Kind.column, Text.padRight, token.kind.notMem_dottedName.2,
    Text.newline_notMem_quoted]

end Token

-- One line for each token, and nothing behind the last one.
theorem splitOn_render (tokens : List Token) :
    Text.splitOn '\n' (render tokens) = tokens.map Token.rendered ++ [[]] := by
  induction tokens with
  | nil => rfl
  | cons token tokens ih =>
    rw [render, List.flatMap_cons, token.renderLine_eq, List.append_assoc, List.singleton_append,
      Text.splitOn_append token.newline_notMem_rendered, ← render, ih]
    rfl

theorem pair_selfDelimiting : SelfDelimiting fun pair : Kind × Text =>
    pair.1.column 16 ++ (Text.quoted pair.2 ++ ['\n']) :=
  (Kind.column_selfDelimiting 16).append (Text.quoted_selfDelimiting.trail fun _ => ['\n'])

theorem render_eq_iff {first second : List Token} :
    render first = render second ↔ Coverage.pairs first = Coverage.pairs second := by
  have hrender (tokens : List Token) : render tokens = (Coverage.pairs tokens).flatMap fun pair =>
      pair.1.column 16 ++ (Text.quoted pair.2 ++ ['\n']) := by
    rw [Coverage.pairs, List.flatMap_map, render]
    congr 1
    funext token
    rw [token.renderLine_eq, Token.rendered, List.append_assoc]
  rw [hrender, hrender]
  exact (pair_selfDelimiting.flatMap_injective (by simp)).eq_iff

theorem columns_selfDelimiting : SelfDelimiting (Cli.tokenLine .columns) := by
  have hfields := (Text.offset_selfDelimiting 6).append ((Kind.column_selfDelimiting 24).append
    (Text.quoted_selfDelimiting.trail fun _ => ['\n']))
  have htoken : Function.Injective fun token : Token => (token.start, token.kind, token.text) := by
    rintro ⟨⟩ ⟨⟩ heq
    simp_all
  intro a b rest rest' heq
  exact hfields.comp htoken (by simpa [Cli.tokenLine, Token.columns, Kind.column] using heq)

theorem json_selfDelimiting : SelfDelimiting (Cli.tokenLine .json) := by
  have hkind : SelfDelimiting fun kind : Kind => Json.quoted kind.dottedName.toList :=
    Json.quoted_selfDelimiting.comp Kind.dottedName_injective
  have hstart : SelfDelimiting fun n : Nat => Nat.toDigits 10 n ++ [','] :=
    Text.toDigits_selfDelimiting (by decide)
  have hfields := (hkind.lead "\x7b\"kind\":".toList).append
    ((hstart.lead ",\"start\":".toList).append
      ((Json.quoted_selfDelimiting.lead "\"text\":".toList).trail fun _ => ['\x7d', '\n']))
  -- The comma behind the number ends it. No key is opened: it could be any text.
  have hcomma : ",\"text\":".toList = [','] ++ "\"text\":".toList := by simp
  have hregroup (lead name between digits key text : Text) :
      lead ++ name ++ between ++ digits ++ ([','] ++ key) ++ text ++ ['\x7d'] ++ ['\n'] =
        lead ++ name ++ (between ++ (digits ++ [',']) ++ (key ++ text ++ ['\x7d', '\n'])) := by
    simp
  have hline (token : Token) : Cli.tokenLine .json token =
      "\x7b\"kind\":".toList ++ Json.quoted token.kind.dottedName.toList ++
        (",\"start\":".toList ++ (Nat.toDigits 10 token.start ++ [',']) ++
          ("\"text\":".toList ++ Json.quoted token.text ++ ['\x7d', '\n'])) := by
    rw [← hregroup, ← hcomma]
    rfl
  have htoken : Function.Injective fun token : Token => (token.kind, token.start, token.text) := by
    rintro ⟨⟩ ⟨⟩ heq
    simp_all
  intro a b rest rest' heq
  rw [hline, hline] at heq
  exact hfields.comp htoken heq

theorem tokenLine_selfDelimiting (style : Cli.Style) : SelfDelimiting (Cli.tokenLine style) := by
  cases style with
  | columns => exact columns_selfDelimiting
  | json => exact json_selfDelimiting

-- The dump of kinds and texts has one line for each token, and two lists have the same one if and
-- only if they have the same kinds and texts in order. What the command line writes, in columns or
-- as JSON, is the same for two lists if and only if the lists are the same.
theorem dumps_lossless (first second : List Token) :
    Text.splitOn '\n' (render first) = first.map Token.rendered ++ [[]] ∧
    (render first = render second ↔ Coverage.pairs first = Coverage.pairs second) ∧
    ∀ style, first.flatMap (Cli.tokenLine style) = second.flatMap (Cli.tokenLine style) ↔
      first = second := by
  refine ⟨splitOn_render first, render_eq_iff, fun style => ?_⟩
  have hne (token : Token) : Cli.tokenLine style token ≠ [] := by
    cases style <;> simp [Cli.tokenLine]
  exact ((tokenLine_selfDelimiting style).flatMap_injective hne).eq_iff

end StackLexer
