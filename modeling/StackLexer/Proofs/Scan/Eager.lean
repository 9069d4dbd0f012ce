import StackLexer.Proofs.Scan.Calls
import StackLexer.Proofs.Scan.Sample

namespace StackLexer

namespace Eager

-- One error for each character, the first of which starts at `start`.
def errors (start : Nat) : Text → List Token
  | [] => []
  | c :: rest => ⟨.error, start, [c]⟩ :: errors (start + c.utf8Size) rest

section Scanner

-- `inner` gives the tokens of a whole scan one level deeper.
variable (set : TableSet) (inner : Scan → Option (List Token))

-- The tokens of one segment of a match.
def segment (scan : Scan) (segment : Segment (Part Handle)) : Option (List Token) := do
  let start := scan.base + segment.span.start
  let text ← scan.input.slice? segment.span
  match segment with
  | .unclaimed _ => return errors start text
  | .claimed (.kind kind) _ => return [⟨kind, start, text⟩]
  | .claimed (.delegate handle) _ =>
      if set.options.maxDelegationDepth ≤ scan.depth then return errors start text
      else match set.lookup? scan.table handle.delegation with
        | none => return errors start text
        | some target =>
            let table ← set.table? target.table
            inner {
              table := target.table
              input := text
              base := start
              cursor := 0
              stack := ⟨table.root, target.state?.toList⟩
              depth := scan.depth + 1
              emptySteps := 0 }

def segments (scan : Scan) : List (Segment (Part Handle)) → Option (List Token)
  | [] => some []
  | first :: rest => do return (← segment set inner scan first) ++ (← segments scan rest)

-- The character at the cursor as an error.
def skip (scan : Scan) : Option (Scan × List Token) := do
  let place ← scan.input.place? scan.cursor
  let c ← place.after.head?
  return ({ scan with cursor := scan.cursor + c.utf8Size, emptySteps := 0 },
    [⟨.error, scan.base + scan.cursor, [c]⟩])

-- The first rule of the current state that matches at the cursor.
def step (scan : Scan) : Option (Scan × List Token) := do
  let table ← set.table? scan.table
  let state ← table.state? scan.stack.top
  let place ← scan.input.place? scan.cursor
  match Scan.winner? state.rules place with
  | none => skip scan
  | some (rule, found) =>
      let stack := (scan.stack.apply rule.ops).1
      if scan.cursor < found.span.stop then do
        let tokens ← segments set inner scan (scan.cut state rule found)
        return ({ scan with cursor := found.span.stop, stack := stack, emptySteps := 0 }, tokens)
      else if scan.emptySteps < set.options.maxEmptySteps then
        return ({ scan with stack := stack, emptySteps := scan.emptySteps + 1 }, [])
      else skip { scan with stack := stack }

-- Steps until the text is at its end, at most `steps` of them. The scan is given as it ends.
def loop (steps : Nat) (scan : Scan) : Option (List Token × Scan) :=
  if scan.isDone then some ([], scan)
  else match steps with
    | 0 => none
    | steps + 1 => do
        let (next, tokens) ← step set inner scan
        let (rest, final) ← loop steps next
        return (tokens ++ rest, final)

end Scanner

-- A scan without a queue. It emits the parts of each match in order, and the tokens of a delegated
-- span on the spot, from a complete scan of that span. A whole scan with `room` for that many
-- levels below it.
def scan (set : TableSet) : (room : Nat) → Scan → Option (List Token × Scan)
  | 0, outer => loop set (fun _ => none)
      (outer.input.length * (set.options.maxEmptySteps + 1)) outer
  | room + 1, outer => loop set (fun inner => (scan set room inner).map (·.1))
      (outer.input.length * (set.options.maxEmptySteps + 1)) outer

section Simulation

variable {set : TableSet} (inner : Scan → Option (List Token))

-- The tokens that pieces stand for.
def meaning : List Piece → Option (List Token)
  | [] => some []
  | .token token :: rest => do return token :: (← meaning rest)
  | .nested scan :: rest => do return (← inner scan) ++ (← meaning rest)

theorem meaning_append (first second : List Piece) :
    meaning inner (first ++ second) =
      (do return (← meaning inner first) ++ (← meaning inner second)) := by
  induction first with
  | nil => simp [meaning]
  | cons piece first ih =>
      cases piece with
      | token made => simp [meaning, ih, Option.bind_assoc]
      | nested scan => simp [meaning, ih, Option.bind_assoc]

theorem meaning_errorTokens (start : Nat) (text : Text) :
    meaning inner (Scan.errorTokens start text) = some (errors start text) := by
  induction text generalizing start with
  | nil => rfl
  | cons c text ih => simp [Scan.errorTokens, meaning, errors, ih]

variable {scan : Scan}

theorem segment_eq (hset : set.Sound) (hscan : scan.Sound set)
    (segment : Segment (Part Handle)) {part : Text}
    (hslice : scan.input.slice? segment.span = some part) :
    Eager.segment set inner scan segment = meaning inner (scan.piecesOf set segment) := by
  have herrors := fun span : Span =>
    meaning_errorTokens inner (scan.base + span.start) part
  cases segment with
  | unclaimed span =>
      obtain hslice : scan.input.slice? span = some part := hslice
      simp [Eager.segment, Segment.span, Scan.piecesOf, Scan.errorPieces, hslice, herrors]
  | claimed claim span =>
      obtain hslice : scan.input.slice? span = some part := hslice
      cases claim with
      | kind kind => simp [Eager.segment, Scan.piecesOf, meaning, Segment.span, hslice]
      | delegate handle =>
          by_cases hdepth : set.options.maxDelegationDepth ≤ scan.depth
          · simp [Eager.segment, Segment.span, Scan.piecesOf, Scan.delegated, Scan.errorPieces,
              hslice, hdepth, herrors]
          · cases hlookup : set.lookup? scan.table handle.delegation with
            | none =>
                simp [Eager.segment, Segment.span, Scan.piecesOf, Scan.delegated,
                  Scan.errorPieces, hslice, hdepth, hlookup, herrors]
            | some target =>
                obtain ⟨current, hcurrent, -⟩ := hscan.stack
                obtain ⟨table, htable, -⟩ :=
                  hset.lookup? (List.getElem?_eq_some_iff.mp hcurrent).1 hlookup
                have hstack : (⟨table.root, target.state?.toList⟩ : StateStack) =
                    (target.state?.map (StateStack.new table.root).push).getD
                      (.new table.root) := by
                  cases target.state? <;> rfl
                simp [Eager.segment, Segment.span, Scan.piecesOf, Scan.delegated, Scan.fresh,
                  hslice, hdepth, hlookup, htable, hstack, meaning]

theorem segments_eq (hset : set.Sound) (hscan : scan.Sound set)
    {segments : List (Segment (Part Handle))} {start stop : Nat}
    (hstart : scan.input.isBoundary start = true)
    (htiles : Segment.Tiles scan.input start segments stop) :
    Eager.segments set inner scan segments =
      meaning inner (segments.flatMap (scan.piecesOf set)) := by
  induction segments generalizing start with
  | nil => rfl
  | cons segment segments ih =>
      obtain ⟨hspan, hlt, hboundary, hrest⟩ := htiles
      obtain ⟨part, hslice⟩ := Text.slice?_isSome (hspan ▸ hstart) (by omega) hboundary
      rw [Eager.segments, segment_eq inner hset hscan segment hslice, ih hboundary hrest,
        List.flatMap_cons, meaning_append]

theorem skip_eq (scan : Scan) {place : Place} {c : Char} {rest : Text}
    (hplace : scan.input.place? scan.cursor = some place) (hafter : place.after = c :: rest) :
    Eager.skip scan = some (scan.skip c, errors scan.offset [c]) := by
  simp [Eager.skip, hplace, hafter, Scan.skip, errors, Scan.offset]

-- A step emits what its pieces stand for.
theorem step_eq (hset : set.Sound) (hscan : scan.Sound set) {next : Scan} {pieces : List Piece}
    {events : List Event} (h : scan.Steps set next pieces events) :
    Eager.step set inner scan = (meaning inner pieces).map fun tokens => (next, tokens) := by
  -- what every step looks up first
  have hstart : ∀ {state : State} {won : Option (Rule × Match)}, scan.Faces set state won →
      ∃ table place, set.table? scan.table = some table ∧
        table.state? scan.stack.top = some state ∧
        scan.input.place? scan.cursor = some place ∧ place.after = scan.rest ∧
        Scan.winner? state.rules place = won := by
    intro state won hfaces
    obtain ⟨table, htable, hstate⟩ := hfaces.table
    obtain ⟨place, hplace, hwon⟩ := hfaces.place
    obtain ⟨place', hplace', -, hafter⟩ := hscan.place
    obtain rfl := Option.some.inj (hplace.symm.trans hplace')
    exact ⟨table, place, htable, hstate, hplace, hafter, hwon⟩
  cases h with
  | @fail state c rest hfaces hrest =>
      obtain ⟨table, place, htable, hstate, hplace, hafter, hwon⟩ := hstart hfaces
      rw [meaning_errorTokens, Eager.step]
      simp only [htable, hstate, hplace, hwon, Option.bind_eq_bind, Option.bind_some,
        Option.map_some]
      exact skip_eq scan hplace (hafter.trans hrest)
  | @take state rule found hfaces hspan =>
      obtain ⟨table, place, htable, hstate, hplace, -, hwon⟩ := hstart hfaces
      obtain ⟨hbegin, -, -⟩ := hfaces.match_span hscan
      have hempty : found.span.isEmpty = false := decide_eq_false (by omega)
      rw [Eager.step]
      simp only [htable, hstate, hplace, hwon, Option.bind_eq_bind, Option.bind_some, if_pos hspan,
        segments_eq inner hset hscan hscan.cursor (hfaces.cut_tiles hscan hspan)]
      simp only [Scan.follow, hempty]
      cases meaning inner ((scan.cut state rule found).flatMap (scan.piecesOf set)) <;> rfl
  | @stay state rule found hfaces hspan hlimit =>
      obtain ⟨table, place, htable, hstate, hplace, -, hwon⟩ := hstart hfaces
      obtain ⟨hbegin, -, -⟩ := hfaces.match_span hscan
      have hempty : found.span.isEmpty = true := decide_eq_true (by omega)
      have hstill : ¬ scan.cursor < found.span.stop := by omega
      rw [Eager.step]
      simp only [htable, hstate, hplace, hwon, Option.bind_eq_bind, Option.bind_some, if_neg hstill,
        if_pos hlimit]
      simp only [Scan.follow, hempty, hspan]
      rfl
  | @force state rule found c rest hfaces hspan hlimit hrest =>
      obtain ⟨table, place, htable, hstate, hplace, hafter, hwon⟩ := hstart hfaces
      have hstill : ¬ scan.cursor < found.span.stop := by omega
      have hskip : Eager.skip { scan with stack := (scan.stack.apply rule.ops).1 } =
          some (Scan.skip { scan with stack := (scan.stack.apply rule.ops).1 } c,
            errors scan.offset [c]) :=
        skip_eq { scan with stack := (scan.stack.apply rule.ops).1 } hplace (hafter.trans hrest)
      rw [meaning_errorTokens, Eager.step]
      simp only [htable, hstate, hplace, hwon, Option.bind_eq_bind, Option.bind_some, if_neg hstill,
        if_neg (Nat.not_lt.mpr hlimit), hskip]
      simp only [Scan.follow, Scan.skip, hspan]
      rfl

theorem loop_done {steps : Nat} (hdone : scan.isDone = true) :
    loop set inner steps scan = some ([], scan) := by
  unfold loop
  rw [if_pos hdone]

-- More steps than a scan needs do not change what it gives.
theorem loop_mono {steps steps' : Nat} (hle : steps ≤ steps') {result : List Token × Scan}
    (h : loop set inner steps scan = some result) : loop set inner steps' scan = some result := by
  induction steps generalizing steps' scan result with
  | zero =>
      unfold loop at h ⊢
      split at h
      · rw [if_pos (by assumption)]
        exact h
      · contradiction
  | succ steps ih =>
      obtain ⟨more, rfl⟩ : ∃ more, steps' = more + 1 :=
        Nat.exists_eq_succ_of_ne_zero (by omega)
      unfold loop at h ⊢
      split at h
      · rw [if_pos (by assumption)]
        exact h
      · rw [if_neg (by assumption)]
        obtain ⟨⟨next, tokens⟩, hstep, h⟩ := Option.bind_eq_some_iff.mp h
        obtain ⟨⟨rest, final⟩, hloop, h⟩ := Option.bind_eq_some_iff.mp h
        simp only [hstep, ih (Nat.le_of_succ_le_succ hle) hloop, Option.bind_eq_bind,
          Option.bind_some]
        exact h

-- The tokens of scans below one that has `room` for levels below it.
def nested (set : TableSet) : (room : Nat) → Scan → Option (List Token)
  | 0, _ => none
  | room + 1, scan => (Eager.scan set room scan).map (·.1)

theorem scan_eq (room : Nat) : Eager.scan set room scan = loop set (nested set room)
    (scan.input.length * (set.options.maxEmptySteps + 1)) scan := by
  cases room <;> rfl

end Simulation

end Eager

-- What a level stands for: its pending pieces, and then the rest of its scan, which ends as
-- `final`.
def Level.Gives (set : TableSet) (level : Level) (tokens : List Token) (final : Scan) : Prop :=
  ∃ first rest, tokens = first ++ rest ∧
    Eager.meaning (Eager.nested set (set.options.maxDelegationDepth - level.scan.depth))
      level.pending = some first ∧
    Eager.loop set (Eager.nested set (set.options.maxDelegationDepth - level.scan.depth))
      (level.scan.budget set) level.scan = some (rest, final)

namespace Stream

-- What levels stand for, the innermost first. `final` is how the outer scan ends.
def Gives (set : TableSet) : Level → List Level → List Token → Scan → Prop
  | level, [], tokens, final => level.Gives set tokens final
  | level, outer :: waiting, tokens, final =>
      ∃ own rest ended, tokens = own ++ rest ∧ level.Gives set own ended ∧
        Gives set outer waiting rest final

section Gives

variable {set : TableSet} {stream stream' : Stream} {events : List Event} {start : Nat}
variable {tokens : List Token} {final : Scan}

-- A level that stands for some tokens more.
theorem Gives.prepend {level level' : Level} {waiting : List Level} {own : List Token}
    (hlevel : ∀ tokens final, level.Gives set tokens final → level'.Gives set (own ++ tokens) final)
    (h : Gives set level waiting tokens final) :
    Gives set level' waiting (own ++ tokens) final := by
  cases waiting with
  | nil => exact hlevel _ _ h
  | cons outer waiting =>
      obtain ⟨first, rest, ended, rfl, hfirst, hrest⟩ := h
      exact ⟨own ++ first, rest, ended, (List.append_assoc ..).symm, hlevel _ _ hfirst, hrest⟩

-- What the levels stand for is the same before a move.
theorem Moves.gives (hset : set.Sound) (hstream : stream.Sound set start)
    (h : Moves set stream stream' events)
    (hgives : Gives set stream'.active stream'.waiting tokens final) :
    Gives set stream.active stream.waiting tokens final := by
  cases h with
  | @enter scan inner rest waiting =>
      obtain ⟨-, -, ⟨hinner, -, hdepth, hlimit⟩, -⟩ := hstream.active.cons
      obtain ⟨own, after, ended, rfl, ⟨first, last, rfl, hfirst, hloop⟩, hrest⟩ := hgives
      obtain rfl := Option.some.inj hfirst
      refine hrest.prepend fun tokens final hlevel => ?_
      obtain ⟨pending, behind, rfl, hpending, hbehind⟩ := hlevel
      refine ⟨last ++ pending, behind, (List.append_assoc ..).symm, ?_, hbehind⟩
      -- a scan that starts has the budget of a whole scan
      have hwhole : Eager.scan set (set.options.maxDelegationDepth - inner.depth) inner =
          some (last, ended) := by
        rw [Eager.scan_eq]
        exact Eager.loop_mono _ (Scan.budget_le hinner) hloop
      have hroom : set.options.maxDelegationDepth - scan.depth =
          set.options.maxDelegationDepth - inner.depth + 1 := by omega
      have hnested : Eager.nested set (set.options.maxDelegationDepth - scan.depth) inner =
          some last := by
        rw [hroom, Eager.nested, hwhole]
        rfl
      simp only [Eager.meaning, hnested, hpending, Option.bind_eq_bind, Option.bind_some]
      rfl
  | @leave scan level waiting hdone =>
      refine ⟨[], tokens, scan, rfl, ⟨[], [], rfl, rfl, ?_⟩, hgives⟩
      exact Eager.loop_done _ hdone
  | @step scan next pieces events waiting hdone hstep =>
      have hscan : scan.Sound set := hstream.active.scan
      have hbudget := hstep.budget_lt hset hscan hdone
      obtain ⟨read, hpasses, -, -⟩ := hstep.passes hset hscan
      have hlevel : ∀ tokens final, Level.Gives set ⟨next, pieces⟩ tokens final →
          Level.Gives set ⟨scan, []⟩ ([] ++ tokens) final := by
        rintro tokens final ⟨first, rest, rfl, hfirst, hloop⟩
        refine ⟨[], first ++ rest, rfl, rfl, ?_⟩
        dsimp only at hfirst hloop ⊢
        rw [hpasses.depth] at hfirst hloop
        apply Eager.loop_mono _ hbudget
        unfold Eager.loop
        rw [if_neg (by simp [hdone]), Eager.step_eq _ hset hscan hstep, hfirst]
        simp only [Option.map_some, Option.bind_eq_bind, Option.bind_some, hloop]
        rfl
      exact hgives.prepend hlevel

theorem Next.gives {answer : Option Token} (hset : set.Sound) (hstream : stream.Sound set start)
    (h : Next set stream answer stream' events)
    (hgives : Gives set stream'.active stream'.waiting tokens final) :
    Gives set stream.active stream.waiting (answer.toList ++ tokens) final := by
  induction h with
  | @token scan made rest waiting =>
      refine hgives.prepend fun tokens final hlevel => ?_
      obtain ⟨first, behind, rfl, hfirst, hloop⟩ := hlevel
      refine ⟨made :: first, behind, rfl, ?_, hloop⟩
      simp only [Eager.meaning, hfirst, Option.bind_eq_bind, Option.bind_some]
      rfl
  | finish => exact hgives
  | move hmove _ ih =>
      exact hmove.gives hset hstream (ih (hmove.sound hset hstream) hgives)

theorem Calls.gives {answers : List (Option Token)} (hset : set.Sound)
    (hstream : stream.Sound set start) (h : Calls set stream answers stream' events)
    (hgives : Gives set stream'.active stream'.waiting tokens final) :
    Gives set stream.active stream.waiting (answers.filterMap id ++ tokens) final := by
  induction h generalizing start with
  | nil => exact hgives
  | @cons stream answer between events answers final' events' hnext _ ih =>
      obtain ⟨start', hbetween⟩ := hnext.sound hset hstream
      have hrest := hnext.gives hset hstream (ih hbetween hgives)
      cases answer with
      | none => exact hrest
      | some token => exact hrest

end Gives

-- Calls one after another give the tokens of the scan without a queue, and leave the outer scan as
-- that one does.
theorem calls_eq_eager {grammars : List Grammar} {options : Options} {set : TableSet}
    (hbuild : TableSet.build grammars options = .ok set) {lexer : TableId} {table : Table}
    (htable : set.table? lexer = some table) {state? : Option StateId}
    (hstate : ∀ state ∈ state?, state < table.states.length) (text : Text) (base depth : Nat) :
    ∃ tokens stream,
      (calls set set.plainHost (tokens.length + 1)
        (.ofScan (.fresh lexer table.root state? text base depth))).run =
          .ok (tokens.map some ++ [none], stream) ∧
      Eager.scan set (options.maxDelegationDepth - depth)
        (.fresh lexer table.root state? text base depth) = some (tokens, stream.outer) := by
  have hset := TableSet.sound_of_build hbuild
  have hfresh := Scan.fresh_sound hset htable hstate text base depth
  have hstart : Sound set base (.ofScan (.fresh lexer table.root state? text base depth)) :=
    ofScan_sound hfresh rfl
  obtain ⟨tokens, scan, events, -, hdone, hcalls, hrun⟩ := drain_ok hset hstart
  have hend : Gives set ⟨scan, []⟩ [] [] scan := ⟨[], [], rfl, rfl, Eager.loop_done _ hdone⟩
  have hgives := hcalls.gives hset hstart hend
  obtain ⟨first, rest, htokens, hfirst, hloop⟩ := hgives
  obtain rfl := Option.some.inj hfirst
  have hwhole : tokens = rest := by simpa using htokens
  refine ⟨tokens, ⟨⟨scan, []⟩, []⟩, ?_, ?_⟩
  · rw [Nat.add_comm]
    exact hrun set.plainReading 0
  · rw [Eager.scan_eq, hwhole, ← TableSet.options_of_build hbuild]
    exact Eager.loop_mono _ (Scan.budget_le hfresh) hloop

theorem sample_calls_eq_eager : ∃ set table, TableSet.build [.sample] .sample = .ok set ∧
    set.table? 0 = some table ∧ (∀ state ∈ some 1, state < table.states.length) ∧
    ∃ tokens stream,
      (calls set set.plainHost (tokens.length + 1)
        (.ofScan (.fresh 0 table.root (some 1) "<a<b>>7!".toList 0 0))).run =
          .ok (tokens.map some ++ [none], stream) ∧
      Eager.scan set (Options.sample.maxDelegationDepth - 0)
        (.fresh 0 table.root (some 1) "<a<b>>7!".toList 0 0) = some (tokens, stream.outer) := by
  obtain ⟨set, table, hbuild, htable, hstates⟩ := Grammar.sample_builds
  have hstate : ∀ state ∈ some 1, state < table.states.length := by simpa using hstates
  exact ⟨set, table, hbuild, htable, hstate, calls_eq_eager hbuild htable hstate _ 0 0⟩

end Stream

end StackLexer
