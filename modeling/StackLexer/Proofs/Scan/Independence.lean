import StackLexer.Lexer
import StackLexer.Proofs.Scan.Sample
import StackLexer.Proofs.Scan.Twins

namespace StackLexer

-- Scans at the same point of a text, with the same grammar of both lists.
def Scan.Twin (grammars grammars' : List Grammar) (scan scan' : Scan) : Prop :=
  ∃ grammar, grammars[scan.table]? = some grammar ∧ grammars'[scan'.table]? = some grammar ∧
    scan' = scan.moveTo scan'.table

-- The lexers give the same tokens of every text, all at once and one by one, when they remember
-- where delegations lead.
def Lexer.Agrees (lexer lexer' : Lexer) : Prop :=
  ∀ text,
    (∃ tokens, lexer.tokens text = .ok tokens ∧ lexer'.tokens text = .ok tokens) ∧
    ∃ stream stream', lexer.set.open? lexer.id text = some stream ∧
      lexer'.set.open? lexer'.id text = some stream' ∧
      ∀ count, ∃ answers final final' session session',
        (stream.calls lexer.set lexer.set.liveHost count).run Session.empty =
          (.ok (answers, final), session) ∧
        (stream'.calls lexer'.set lexer'.set.liveHost count).run Session.empty =
          (.ok (answers, final'), session')

-- A simulation that keeps tokens as they are relates lexers that agree.
theorem Simulation.agrees {grammars grammars' : List Grammar} {set set' : TableSet}
    (sim : Simulation set set') (htokens : ∀ made made', sim.Tokens made made' → made = made')
    (hbuilt : TableSet.BuiltAs grammars set) (hbuilt' : TableSet.BuiltAs grammars' set')
    {id id' : TableId} {table table' : Table} (htable : set.table? id = some table)
    (htable' : set'.table? id' = some table')
    (hstart : ∀ text, sim.Scans (.start id table.root text) (.start id' table'.root text)) :
    Lexer.Agrees ⟨set, id⟩ ⟨set', id'⟩ := by
  intro text
  have hopen := Stream.open?_eq htable text
  have hopen' := Stream.open?_eq htable' text
  have hstream := Stream.open?_sound hbuilt.sound hopen
  have hstream' := Stream.open?_sound hbuilt'.sound hopen'
  have hcalls : ∀ {answers final events},
      Stream.Calls set (.ofScan (.start id table.root text)) answers final events →
      ∃ final' events',
        Stream.Calls set' (.ofScan (.start id' table'.root text)) answers final' events' := by
    intro answers final events hcalls
    obtain ⟨answers', final', events', hcalls', hanswers, -, -⟩ :=
      Simulation.calls hbuilt.sound (Simulation.streams_ofScan (hstart text)) hstream hcalls
    have hsame : answers = answers' := by
      apply List.forall₂_eq_eq_eq ▸ hanswers.imp _
      rintro answer answer' (hmade | ⟨⟩)
      · rw [htokens _ _ hmade]
      · rfl
    exact ⟨final', events', hsame ▸ hcalls'⟩
  constructor
  · obtain ⟨tokens, scan, events, -, -, hdrain, -⟩ := Stream.drain_ok hbuilt.sound hstream
    obtain ⟨final', events', hdrain'⟩ := hcalls hdrain
    exact ⟨tokens, hdrain.tokens_eq hbuilt.sound hopen, hdrain'.tokens_eq hbuilt'.sound hopen'⟩
  · refine ⟨_, _, hopen, hopen', ?_⟩
    intro count
    obtain ⟨answers, final, events, rfl, hrun⟩ :=
      Stream.exists_calls hbuilt.sound hstream count
    obtain ⟨final', events', hrun'⟩ := hcalls hrun
    obtain ⟨session, hlive, -⟩ := hrun.ok hbuilt.reading hbuilt.sound hstream
      Session.empty (Session.empty_right set)
    obtain ⟨session', hlive', -⟩ := hrun'.ok hbuilt'.reading hbuilt'.sound hstream'
      Session.empty (Session.empty_right set')
    exact ⟨answers, final, final', session, session', hlive, hlive'⟩

namespace TableSet

variable {grammars grammars' : List Grammar} {set set' : TableSet} {options : Options}

theorem LeadsTo.mono (hsub : grammars ⊆ grammars') {grammar target : Grammar} {name : LexerName}
    (h : LeadsTo grammars grammar name target) : LeadsTo grammars' grammar name target := by
  cases name with
  | this => exact h
  | named name => exact ⟨hsub h.1, h.2⟩

theorem WellFormed.perm (hperm : grammars.Perm grammars') (h : WellFormed grammars) :
    WellFormed grammars' where
  names := (List.Perm.nodup_iff (hperm.flatMap_right _)).mp h.names
  each grammar hmem := h.each grammar (hperm.mem_iff.mpr hmem)
  delegations grammar hmem delegation hdelegation := by
    obtain ⟨target, hleads, hstates⟩ :=
      h.delegations grammar (hperm.mem_iff.mpr hmem) delegation hdelegation
    exact ⟨target, hleads.mono hperm.subset, hstates⟩

section Sub

variable (hbuilt : BuiltAs grammars set) (hgrammars : WellFormed grammars)
variable (hbuilt' : BuiltAs grammars' set') (hgrammars' : WellFormed grammars')
variable (hsub : grammars ⊆ grammars')

include hbuilt hgrammars hbuilt' hgrammars' hsub

-- Where a grammar of both lists delegates to, the target is also one of both.
theorem BuiltAs.twins_of_subset (hoptions : set'.options = set.options) {grammar : Grammar}
    {id id' : TableId} (hgrammar : grammars[id]? = some grammar)
    (hgrammar' : grammars'[id']? = some grammar) :
    set.Twins set' id id' (Scan.Twin grammars grammars') := by
  apply hbuilt.twins hgrammars hbuilt' hgrammars' hoptions hgrammar hgrammar'
  intro delegation target target' number number' table table' text base depth hleads hleads'
    htarget htarget' has has'
  obtain rfl := (hleads.mono hsub).unique hgrammars'.names hleads'
  exact ⟨target, htarget, htarget', has.fresh_eq has' _ text base depth⟩

-- Runs over the smaller set go on in the larger one.
def simulationOfSubset (hoptions : set'.options = set.options) : Simulation set set' where
  Scans := Scan.Twin grammars grammars'
  Tokens := Eq
  Records _ _ := True
  nil := trivial
  append _ _ := trivial
  done := by
    rintro scan scan' ⟨-, -, -, hmoved⟩
    rw [hmoved]
    rfl
  step := by
    rintro scan scan' next pieces events ⟨grammar, hgrammar, hgrammar', hmoved⟩ hscan - hstep
    have htwins := hbuilt.twins_of_subset hgrammars hbuilt' hgrammars' hsub hoptions hgrammar
      hgrammar'
    obtain ⟨pieces', hstep', hpieces⟩ := hstep.moveTo htwins rfl
    rw [← hmoved] at hstep'
    have htable : next.table = scan.table := by
      obtain ⟨read, hpasses, -, -⟩ := hstep.passes hbuilt.sound hscan
      exact hpasses.table
    refine ⟨_, pieces', _, hstep', ⟨grammar, ?_, hgrammar', rfl⟩, hpieces, trivial⟩
    rw [htable]
    exact hgrammar

-- Twins that are run by calls one after another give the same.
theorem BuiltAs.agrees (hoptions : set'.options = set.options) {grammar : Grammar}
    {id id' : TableId} (hgrammar : grammars[id]? = some grammar)
    (hgrammar' : grammars'[id']? = some grammar) : Lexer.Agrees ⟨set, id⟩ ⟨set', id'⟩ := by
  obtain ⟨table, htable, has⟩ := hbuilt.table id grammar hgrammar
  obtain ⟨table', htable', has'⟩ := hbuilt'.table id' grammar hgrammar'
  let sim := simulationOfSubset hbuilt hgrammars hbuilt' hgrammars' hsub hoptions
  apply sim.agrees (fun _ _ heq => heq) hbuilt hbuilt' htable htable'
  exact fun text => ⟨grammar, hgrammar, hgrammar', has.fresh_eq has' none text 0 0⟩

-- A name of the smaller set leads to lexers that agree.
theorem BuiltAs.ofSet?_agrees (hoptions : set'.options = set.options) {name : String}
    (hname : name ∈ grammars.flatMap Grammar.names) :
    ∃ lexer lexer', Lexer.ofSet? set name = some lexer ∧ Lexer.ofSet? set' name = some lexer' ∧
      lexer.Agrees lexer' := by
  obtain ⟨grammar, hmem, hown⟩ := List.mem_flatMap.mp hname
  obtain ⟨id, -, hid, hgrammar, -, -⟩ := hbuilt.of_mem hgrammars.names hmem hown
  obtain ⟨id', -, hid', hgrammar', -, -⟩ := hbuilt'.of_mem hgrammars'.names (hsub hmem) hown
  refine ⟨⟨set, id⟩, ⟨set', id'⟩, ?_, ?_, ?_⟩
  · rw [Lexer.ofSet?, hid, Option.map_some]
  · rw [Lexer.ofSet?, hid', Option.map_some]
  · exact hbuilt.agrees hgrammars hbuilt' hgrammars' hsub hoptions hgrammar hgrammar'

end Sub

-- If all grammars of a list are in another, the lexers of the one set are also lexers of the other,
-- and agree with them. Lists with the same grammars are both built, or neither is, and every name
-- leads to lexers that agree, or to none.
theorem lexers_independent (grammars grammars' : List Grammar) (options : Options) :
    (grammars ⊆ grammars' → ∀ set set', build grammars options = .ok set →
      build grammars' options = .ok set' → ∀ name ∈ grammars.flatMap Grammar.names,
        ∃ lexer lexer', Lexer.ofSet? set name = some lexer ∧ Lexer.ofSet? set' name = some lexer' ∧
          lexer.Agrees lexer') ∧
    (grammars.Perm grammars' →
      ((∃ set, build grammars options = .ok set) ↔ ∃ set', build grammars' options = .ok set') ∧
      ∀ set set', build grammars options = .ok set → build grammars' options = .ok set' →
        ∀ name, Option.Rel Lexer.Agrees (Lexer.ofSet? set name) (Lexer.ofSet? set' name)) := by
  have hsubset : grammars ⊆ grammars' → ∀ set set', build grammars options = .ok set →
      build grammars' options = .ok set' → ∀ name ∈ grammars.flatMap Grammar.names,
        ∃ lexer lexer', Lexer.ofSet? set name = some lexer ∧ Lexer.ofSet? set' name = some lexer' ∧
          lexer.Agrees lexer' := by
    intro hsub set set' hbuild hbuild' name hname
    obtain ⟨hbuilt, hgrammars⟩ := (build_settles grammars options).of_ok hbuild
    obtain ⟨hbuilt', hgrammars'⟩ := (build_settles grammars' options).of_ok hbuild'
    have hoptions := (options_of_build hbuild').trans (options_of_build hbuild).symm
    exact hbuilt.ofSet?_agrees hgrammars hbuilt' hgrammars' hsub hoptions hname
  refine ⟨hsubset, ?_⟩
  intro hperm
  have hbuilds : ∀ {first second : List Grammar}, first.Perm second →
      (∃ set, build first options = .ok set) → ∃ set, build second options = .ok set := by
    rintro first second hperm ⟨set, hbuild⟩
    have hfirst := ((build_settles first options).of_ok hbuild).2
    exact build_ok_of_wellFormed (hfirst.perm hperm) options
  refine ⟨⟨hbuilds hperm, hbuilds hperm.symm⟩, ?_⟩
  intro set set' hbuild hbuild' name
  by_cases hname : name ∈ grammars.flatMap Grammar.names
  · obtain ⟨lexer, lexer', hlexer, hlexer', hagrees⟩ :=
      hsubset hperm.subset set set' hbuild hbuild' name hname
    rw [hlexer, hlexer']
    exact .some hagrees
  · have hname' : name ∉ grammars'.flatMap Grammar.names :=
      fun hmem => hname ((hperm.flatMap_right _).mem_iff.mpr hmem)
    have hnone : ∀ {list : List Grammar} {set : TableSet}, build list options = .ok set →
        name ∉ list.flatMap Grammar.names → Lexer.ofSet? set name = none := by
      intro list set hbuild hname
      have hbuilt := ((build_settles list options).of_ok hbuild).1
      rw [Lexer.ofSet?, Option.not_isSome_iff_eq_none.mp (mt (hbuilt.id?_isSome name).mp hname),
        Option.map_none]
    rw [hnone hbuild hname, hnone hbuild' hname']
    exact .none

theorem brackets_lexers_independent : ∃ set set', build [.brackets, .letters] .sample = .ok set ∧
    build [.sample, .letters, .brackets] .sample = .ok set' ∧
    (∃ lexer lexer', Lexer.ofSet? set "brackets" = some lexer ∧
      Lexer.ofSet? set' "brackets" = some lexer' ∧ lexer.Agrees lexer') ∧
    ∃ set'', build [.letters, .brackets] .sample = .ok set'' ∧
      ∀ name, Option.Rel Lexer.Agrees (Lexer.ofSet? set name) (Lexer.ofSet? set'' name) := by
  have hmore : (build [.sample, .letters, .brackets] .sample).toBool = true := by
    decide +kernel
  obtain ⟨set, hbuild⟩ := Grammar.brackets_builds.1
  obtain ⟨set', hbuild'⟩ := exists_ok hmore
  have hsub : [Grammar.brackets, .letters] ⊆ [.sample, .letters, .brackets] := by simp
  have hagrees := (lexers_independent _ _ .sample).1 hsub set set' hbuild hbuild' "brackets"
    (by simp [Grammar.names, Grammar.brackets, Grammar.setState, Grammar.new])
  have hswap : [Grammar.brackets, .letters].Perm [.letters, .brackets] := .swap _ _ []
  obtain ⟨hbuilds, hsame⟩ := (lexers_independent [.brackets, .letters] _ .sample).2 hswap
  obtain ⟨set'', hbuild''⟩ := hbuilds.mp ⟨set, hbuild⟩
  exact ⟨set, set', hbuild, hbuild', hagrees, set'', hbuild'', hsame set set'' hbuild hbuild''⟩

end TableSet

end StackLexer
