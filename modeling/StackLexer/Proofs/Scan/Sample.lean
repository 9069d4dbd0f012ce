import StackLexer.Proofs.Table.Compile
import StackLexer.Scan.Stream

namespace StackLexer

-- Words, numbers, and texts in angle brackets, the inside of which is scanned in its own right. It
-- has a callback that returns a range out of place, and two states that lead to each other without
-- taking up any text.
def Grammar.sample : Grammar :=
  ((Grammar.new "sample").setState "root"
    [.rule ⟨"<([<-z]*)>", .groups [.delegate ⟨.this, none⟩], ⟨[]⟩⟩,
     .rule ⟨"[a-z]+", .token .name, ⟨[]⟩⟩,
     .rule ⟨"[0-9]+", .callback ⟨fun _ => [(.number, ⟨0, 1⟩)]⟩, ⟨[]⟩⟩,
     .default ⟨[.push "blank"]⟩]).setState "blank"
    [.rule ⟨" +", .token .whitespace, ⟨[.pop 1]⟩⟩,
     .default ⟨[.pop 1]⟩]

def Options.sample : Options := ⟨3, 2⟩

theorem Grammar.sample_builds :
    ∃ set table, TableSet.build [sample] .sample = .ok set ∧ set.table? 0 = some table ∧
      1 < table.states.length := by
  have hbuilds : ((TableSet.build [sample] .sample).toOption.any fun set =>
      (set.table? 0).any fun table => decide (1 < table.states.length)) = true := by
    decide +kernel
  obtain ⟨set, hbuild, hbuilds⟩ := exists_ok_of_any hbuilds
  obtain ⟨table, htable, hstates⟩ := (Option.any_eq_true _ _).mp hbuilds
  exact ⟨set, table, hbuild, htable, of_decide_eq_true hstates⟩

-- A grammar that hands what is in brackets to another, and two grammars that it may go to.
def Grammar.brackets : Grammar :=
  (Grammar.new "brackets").setState "root"
    [.rule ⟨"<([a-z]*)>", .groups [.delegate ⟨.named "inside", none⟩], ⟨[]⟩⟩,
     .rule ⟨"[a-z]+", .token .name, ⟨[]⟩⟩]

def Grammar.letters : Grammar :=
  (Grammar.new "inside").setState "root" [.rule ⟨"[a-z]+", .token .name, ⟨[]⟩⟩]

def Grammar.digits : Grammar :=
  { (Grammar.new "digits").setState "root" [.rule ⟨"[0-9]", .token .number, ⟨[.pop 1]⟩⟩] with
    aliases := ["inside"] }

theorem Grammar.brackets_builds :
    (∃ set, TableSet.build [brackets, letters] .sample = .ok set) ∧
    ∃ set, TableSet.build [sample, digits, brackets] .sample = .ok set := by
  have hletters : (TableSet.build [brackets, letters] .sample).toBool = true := by
    decide +kernel
  have hdigits : (TableSet.build [sample, digits, brackets] .sample).toBool = true := by
    decide +kernel
  exact ⟨exists_ok hletters, exists_ok hdigits⟩

end StackLexer
