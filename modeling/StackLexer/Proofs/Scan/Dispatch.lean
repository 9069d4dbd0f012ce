import StackLexer.Proofs.Regex.Search
import StackLexer.Proofs.Text.Cut
import StackLexer.Scan.Step

namespace StackLexer

-- The groups of a match are kept only for an action that needs them.
def Match.keepFor {δ : Type} (action : Action δ) (found : Match) : Match :=
  if action.needsGroups then found else { found with groups := [] }

theorem Match.keepFor_span {δ : Type} (action : Action δ) (found : Match) :
    (found.keepFor action).span = found.span := by
  unfold keepFor
  split <;> rfl

namespace Scan

-- A rule tried at the cursor. Its pattern is searched for the spans of all groups if the action
-- needs them, and if not for the end of the match alone.
def attempt? (scan : Scan) (rule : Rule) : Option Match :=
  if rule.action.needsGroups then do
    let captures ← rule.pattern.capturesAt scan.input scan.cursor
    let whole ← captures.head?.join
    return ⟨⟨scan.cursor, whole.stop⟩, captures.tail⟩
  else (rule.pattern.matchEnd scan.input scan.cursor).map fun stop => ⟨⟨scan.cursor, stop⟩, []⟩

-- The first rule that matches, where each one is tried in its own way.
def attempts? (scan : Scan) (rules : List Rule) : Option (Rule × Match) :=
  rules.findSome? fun rule => (scan.attempt? rule).map (rule, ·)

variable {scan : Scan} {place : Place}

theorem attempt?_eq (hplace : scan.input.place? scan.cursor = some place) (rule : Rule) :
    scan.attempt? rule = (rule.pattern.matchAt place).map (Match.keepFor rule.action) := by
  rw [attempt?, Pattern.capturesAt, Pattern.matchEnd, Pattern.matchText, hplace, Option.bind_some]
  cases hmatch : rule.pattern.matchAt place with
  | none => simp
  | some found =>
      obtain ⟨⟨start, stop⟩, groups⟩ := found
      obtain rfl : start = scan.cursor :=
        (Pattern.matchAt_span hmatch).1.trans (Text.place?_offset hplace)
      cases hneeds : rule.action.needsGroups <;> simp [Match.keepFor, Match.captures, hneeds]

-- The same rule is found by one search for all of them. The match only has no groups if the action
-- does not need any.
theorem attempts?_eq (hplace : scan.input.place? scan.cursor = some place) (rules : List Rule) :
    scan.attempts? rules =
      (winner? rules place).map fun (rule, found) => (rule, found.keepFor rule.action) := by
  rw [attempts?, winner?, List.map_findSome?]
  congr 1
  funext rule
  rw [attempt?_eq hplace, Function.comp_apply, Option.map_map, Option.map_map]
  rfl

section Act

variable {m : Type → Type} [Monad m] (set : TableSet) (host : Host m) (scan : Scan) (state : State)

-- Where the groups are not needed they are not looked at.
theorem act_keepFor (rule : Rule) (found : Match) :
    scan.act set host state rule (found.keepFor rule.action) =
      scan.act set host state rule found := by
  rw [act, act, Match.keepFor_span]
  cases haction : rule.action with
  | token kind => rfl
  | delegate handle => rfl
  | groups parts => rfl
  | callback call => rfl

theorem follow_keepFor (rule : Rule) (found : Match) :
    scan.follow rule (found.keepFor rule.action) = scan.follow rule found := by
  rw [follow, follow, Match.keepFor_span]

theorem respond_attempts? (hplace : scan.input.place? scan.cursor = some place)
    (rules : List Rule) :
    scan.respond set host state (scan.attempts? rules) =
      scan.respond set host state (winner? rules place) := by
  rw [attempts?_eq hplace]
  cases winner? rules place with
  | none => rfl
  | some won =>
      simp only [Option.map_some, respond, act_keepFor, follow_keepFor]

-- A step is what it would be if every rule were tried in its own way.
theorem step_eq_attempts? [LawfulMonad m] :
    scan.step set host = (do
      let table ← orFault (.noTable scan.table) (set.table? scan.table)
      let state ← orFault (.noState scan.stack.top) (table.state? scan.stack.top)
      let _ ← orFault (.badOffset scan.cursor) (scan.input.place? scan.cursor)
      let won := scan.attempts? state.rules
      host.record (.step scan (won.map (·.1)))
      scan.respond set host state won) := by
  rw [step]
  congr 1
  funext table
  congr 1
  funext state
  cases hplace : scan.input.place? scan.cursor with
  | none => simp [orFault]
  | some place =>
      have hrule :
          (scan.attempts? state.rules).map (·.1) = (winner? state.rules place).map (·.1) := by
        rw [attempts?_eq hplace, Option.map_map]
        rfl
      simp only [orFault, pure_bind, hrule, respond_attempts? set host scan state hplace]

end Act

end Scan

end StackLexer
