import StackLexer.Stack

namespace StackLexer

namespace Op

-- A pop takes away as many frames as it says, and some are left.
inductive Exact : Op → List StateId → List StateId → Prop where
  | push (frames : List StateId) (state : StateId) :
      Exact (.push state) frames (frames ++ [state])
  | pushCurrent (below : List StateId) (top : StateId) :
      Exact .pushCurrent (below ++ [top]) (below ++ [top, top])
  | pop {count : Nat} {kept taken : List StateId} (hkept : kept ≠ [])
      (hcount : taken.length = count) : Exact (.pop count) (kept ++ taken) kept

-- A pop of more frames than lie over the bottom one takes all of these and no more.
inductive Moves : Op → List StateId → List StateId → Prop where
  | exact {op : Op} {frames next : List StateId} (h : op.Exact frames next) : Moves op frames next
  | clamped {count : Nat} {bottom : StateId} {above : List StateId} (h : above.length < count) :
      Moves (.pop count) (bottom :: above) [bottom]

-- A pop of as many frames as there are asks for the bottom one with the others.
def AsksForBottom : Op → List StateId → Prop
  | .pop count, frames => frames.length ≤ count
  | _, _ => False

-- Operations one after another, each of which does what `Does` says.
inductive Run (Does : Op → List StateId → List StateId → Prop) :
    List StateId → List Op → List StateId → Prop where
  | nil (frames : List StateId) : Run Does frames [] frames
  | cons {op : Op} {ops : List Op} {frames next final : List StateId}
      (hop : Does op frames next) (hops : Run Does next ops final) :
      Run Does frames (op :: ops) final

-- No operation asks for the bottom one of the frames that those before it have left.
def NeverAsks (frames : List StateId) (ops : List Op) : Prop :=
  ∀ before op after now, ops = before ++ op :: after → Run Moves frames before now →
    ¬op.AsksForBottom now

variable {op : Op} {ops : List Op} {frames next final : List StateId}

-- What lies below the frames plays no part.
theorem Exact.append_left (below : List StateId) (h : op.Exact frames next) :
    op.Exact (below ++ frames) (below ++ next) := by
  cases h with
  | push frames state =>
      rw [← List.append_assoc]
      exact .push _ state
  | pushCurrent lower top =>
      rw [← List.append_assoc, ← List.append_assoc]
      exact .pushCurrent (below ++ lower) top
  | pop hkept hcount =>
      rw [← List.append_assoc]
      exact .pop (List.append_ne_nil_of_right_ne_nil below hkept) hcount

theorem Run.append_left (below : List StateId) (h : Run Exact frames ops final) :
    Run Exact (below ++ frames) ops (below ++ final) := by
  induction h with
  | nil frames => exact .nil (below ++ frames)
  | cons hop _ ih => exact .cons (hop.append_left below) ih

end Op

namespace StateStack

variable {stack : StateStack} {op : Op} {ops : List Op} {next final : List StateId}

def ofFrames : (frames : List StateId) → frames ≠ [] → StateStack
  | bottom :: above, _ => ⟨bottom, above.reverse⟩

theorem frames_ofFrames {frames : List StateId} (hframes : frames ≠ []) :
    (ofFrames frames hframes).frames = frames := by
  cases frames with
  | nil => contradiction
  | cons bottom above => simp [ofFrames, StateStack.frames]

theorem length_frames (stack : StateStack) : stack.frames.length = stack.depth := by
  simp [frames, depth]

theorem frames_push (stack : StateStack) (state : StateId) :
    (stack.push state).frames = stack.frames ++ [state] := by
  simp [frames, push]

theorem frames_eq_append_top (stack : StateStack) :
    ∃ below, stack.frames = below ++ [stack.top] := by
  obtain ⟨root, above⟩ := stack
  cases above with
  | nil => exact ⟨[], rfl⟩
  | cons top above => exact ⟨root :: above.reverse, by simp [frames, StateStack.top]⟩

theorem frames_pop (stack : StateStack) (count : Nat) :
    (stack.pop count).frames = stack.frames.take (stack.depth - stack.removable count) := by
  have hleft : stack.depth - stack.removable count = (stack.above.length - count) + 1 := by
    simp only [depth, removable]
    omega
  rw [hleft, frames, frames, List.take_succ_cons, pop, List.reverse_drop]

theorem allows_pop {count : Nat} :
    stack.allows (.pop count) = true ↔ stack.removable count = count := by
  rw [allows, decide_eq_true_iff, removable]
  omega

theorem allows_iff : stack.allows op = true ↔ ¬op.AsksForBottom stack.frames := by
  cases op with
  | push | pushCurrent => simp [allows, Op.AsksForBottom]
  | pop count =>
      rw [allows, decide_eq_true_iff, Op.AsksForBottom, length_frames, depth]
      omega

theorem exact_step (h : stack.allows op = true) :
    op.Exact stack.frames (stack.step op).frames := by
  cases op with
  | push state =>
      rw [step, frames_push]
      exact .push stack.frames state
  | pushCurrent =>
      obtain ⟨below, hbelow⟩ := stack.frames_eq_append_top
      rw [step, frames_push, hbelow, List.append_assoc]
      exact .pushCurrent below stack.top
  | pop count =>
      have hremoved := allows_pop.mp h
      have hdepth : count < stack.depth := by
        rw [depth, ← hremoved, removable]
        omega
      have hkept : stack.frames.take (stack.depth - count) ≠ [] := by
        rw [← List.length_pos_iff, List.length_take, length_frames]
        omega
      have hcount : (stack.frames.drop (stack.depth - count)).length = count := by
        rw [List.length_drop, length_frames]
        omega
      have hpop := Op.Exact.pop hkept hcount
      rwa [List.take_append_drop, ← hremoved, ← frames_pop, hremoved] at hpop

theorem allows_of_exact (h : op.Exact stack.frames next) : stack.allows op = true := by
  rw [allows_iff]
  generalize stack.frames = frames at h
  cases h with
  | push | pushCurrent => exact id
  | pop hkept hcount =>
      have hpos := List.length_pos_iff.mpr hkept
      rw [Op.AsksForBottom, List.length_append]
      omega

theorem eq_step_of_exact (h : op.Exact stack.frames next) : next = (stack.step op).frames := by
  have hallows := allows_of_exact h
  generalize hframes : stack.frames = frames at h
  cases h with
  | push state => rw [step, frames_push, hframes]
  | pushCurrent below top =>
      obtain ⟨below', htop⟩ := stack.frames_eq_append_top
      obtain ⟨-, rfl⟩ := List.append_singleton_inj.mp (hframes.symm.trans htop)
      rw [step, frames_push, hframes, List.append_assoc]
      rfl
  | @pop count _ taken _ hcount =>
      have hdepth : stack.depth - count = next.length := by
        rw [← length_frames, hframes, List.length_append, hcount, Nat.add_sub_cancel]
      rw [step, frames_pop, allows_pop.mp hallows, hdepth, hframes, List.take_left]

theorem frames_pop_of_lt {count : Nat} (h : stack.above.length < count) :
    (stack.pop count).frames = [stack.root] := by
  rw [pop, List.drop_eq_nil_of_le (Nat.le_of_lt h)]
  rfl

theorem moves_step (stack : StateStack) (op : Op) :
    op.Moves stack.frames (stack.step op).frames := by
  by_cases h : stack.allows op = true
  · exact .exact (exact_step h)
  cases op with
  | push | pushCurrent => exact absurd rfl h
  | pop count =>
      have hcount : stack.above.length < count := by simpa [allows] using h
      rw [step, frames_pop_of_lt hcount]
      exact .clamped (by simpa using hcount)

theorem eq_step_of_moves (h : op.Moves stack.frames next) : next = (stack.step op).frames := by
  generalize hframes : stack.frames = frames at h
  cases h with
  | exact h => exact eq_step_of_exact (hframes ▸ h)
  | clamped h =>
      obtain ⟨rfl, rfl⟩ := List.cons.inj hframes
      rw [List.length_reverse] at h
      rw [step, frames_pop_of_lt h]

theorem apply_cons (stack : StateStack) (op : Op) (ops : List Op) :
    stack.apply (op :: ops) =
      (((stack.step op).apply ops).1, stack.allows op && ((stack.step op).apply ops).2) := rfl

theorem run_apply (stack : StateStack) (ops : List Op) :
    Op.Run Op.Moves stack.frames ops (stack.apply ops).1.frames := by
  induction ops generalizing stack with
  | nil => exact .nil stack.frames
  | cons op ops ih => exact .cons (moves_step stack op) (ih (stack.step op))

theorem eq_apply_of_run (h : Op.Run Op.Moves stack.frames ops final) :
    final = (stack.apply ops).1.frames := by
  induction ops generalizing stack with
  | nil =>
      cases h
      rfl
  | cons op ops ih =>
      cases h with
      | cons hop hops =>
          obtain rfl := eq_step_of_moves hop
          exact ih hops

theorem exactRun_apply (h : (stack.apply ops).2 = true) :
    Op.Run Op.Exact stack.frames ops (stack.apply ops).1.frames := by
  induction ops generalizing stack with
  | nil => exact .nil stack.frames
  | cons op ops ih =>
      rw [apply_cons, Bool.and_eq_true] at h
      exact .cons (exact_step h.1) (ih h.2)

theorem apply_of_exactRun (h : Op.Run Op.Exact stack.frames ops final) :
    (stack.apply ops).2 = true ∧ (stack.apply ops).1.frames = final := by
  induction ops generalizing stack with
  | nil =>
      cases h
      exact ⟨rfl, rfl⟩
  | cons op ops ih =>
      cases h with
      | cons hop hops =>
          have hallows := allows_of_exact hop
          obtain rfl := eq_step_of_moves (.exact hop)
          obtain ⟨hexact, hfinal⟩ := ih hops
          exact ⟨by rw [apply_cons, hallows, hexact, Bool.and_self], hfinal⟩

theorem apply_exact_iff : (stack.apply ops).2 = true ↔
    ∀ before op after, ops = before ++ op :: after →
      (stack.apply before).1.allows op = true := by
  induction ops generalizing stack with
  | nil => simp [apply]
  | cons op ops ih =>
      rw [apply_cons, Bool.and_eq_true, ih]
      constructor
      · rintro ⟨hop, hops⟩ before op' after hsplit
        cases before with
        | nil =>
            obtain ⟨rfl, rfl⟩ := List.cons.inj hsplit
            exact hop
        | cons first before =>
            obtain ⟨rfl, hops'⟩ := List.cons.inj hsplit
            exact hops before op' after hops'
      · intro h
        exact ⟨h [] op ops rfl, fun before op' after hsplit =>
          h (op :: before) op' after (congrArg (op :: ·) hsplit)⟩

theorem apply_root (stack : StateStack) (ops : List Op) :
    (stack.apply ops).1.root = stack.root := by
  induction ops generalizing stack with
  | nil => rfl
  | cons op ops ih =>
      have hstep : (stack.step op).root = stack.root := by cases op <;> rfl
      exact (ih (stack.step op)).trans hstep

theorem apply_exact_iff_neverAsks :
    (stack.apply ops).2 = true ↔ Op.NeverAsks stack.frames ops := by
  rw [apply_exact_iff]
  refine forall_congr' fun before => forall_congr' fun op => forall_congr' fun after => ?_
  constructor
  · intro h now hsplit hrun
    rw [eq_apply_of_run hrun, ← allows_iff]
    exact h hsplit
  · intro h hsplit
    exact allows_iff.mpr (h _ hsplit (run_apply stack before))

theorem apply_append_left {tall : StateStack} {below : List StateId}
    (htall : tall.frames = below ++ stack.frames) (h : (stack.apply ops).2 = true) :
    (tall.apply ops).2 = true ∧
      (tall.apply ops).1.frames = below ++ (stack.apply ops).1.frames := by
  have hrun := (exactRun_apply h).append_left below
  rw [← htall] at hrun
  exact apply_of_exactRun hrun

-- The flag of a run is set if and only if no operation asks for the bottom frame. Then the run does
-- the same to these frames on top of any others. Set or not, what the run leaves is what all the
-- operations in their order make of the frames, each pop at most down to the bottom one, which
-- stays what it is.
theorem apply_local (frames : List StateId) (hframes : frames ≠ []) (ops : List Op)
    (below : List StateId) :
    let ran := (ofFrames frames hframes).apply ops
    let ranOver :=
      (ofFrames (below ++ frames) (List.append_ne_nil_of_right_ne_nil below hframes)).apply ops
    (ran.2 = true ↔ Op.NeverAsks frames ops) ∧
    (ran.2 = true → ranOver.2 = true ∧ ranOver.1.frames = below ++ ran.1.frames) ∧
    (∀ final, Op.Run Op.Moves frames ops final ↔ final = ran.1.frames) ∧
    ran.1.frames.head? = frames.head? := by
  intro ran ranOver
  have hbase := frames_ofFrames hframes
  have htall := frames_ofFrames (List.append_ne_nil_of_right_ne_nil below hframes)
  have hrun := run_apply (ofFrames frames hframes) ops
  rw [hbase] at hrun
  refine ⟨?_, ?_, fun final => ⟨fun h => ?_, ?_⟩, ?_⟩
  · rw [apply_exact_iff_neverAsks, hbase]
  · exact apply_append_left (by rw [htall, hbase])
  · rw [← hbase] at h
    exact eq_apply_of_run h
  · rintro rfl
    exact hrun
  · have hroot : ran.1.frames.head? = (ofFrames frames hframes).frames.head? :=
      congrArg some (apply_root (ofFrames frames hframes) ops)
    rw [hroot, hbase]

-- A pop that also takes what was pushed before it, and a pop of all frames there are. Over two more
-- frames the second one takes both of the pair, and alone it leaves one.
theorem pair_apply_local :
    ([0, 1] : List StateId) ≠ [] ∧
    (Op.NeverAsks [0, 1] [.push 2, .pop 2, .pushCurrent] ∧
      ((ofFrames [7, 8, 0, 1] (by decide)).apply [.push 2, .pop 2, .pushCurrent]).2 = true ∧
      ((ofFrames [7, 8, 0, 1] (by decide)).apply [.push 2, .pop 2, .pushCurrent]).1.frames =
        [7, 8, 0, 0]) ∧
    (¬Op.NeverAsks [0, 1] [.pop 2, .push 4, .pushCurrent] ∧
      Op.Run Op.Moves [0, 1] [.pop 2, .push 4, .pushCurrent] [0, 4, 4] ∧
      ((ofFrames [7, 8, 0, 1] (by decide)).apply [.pop 2, .push 4, .pushCurrent]).1.frames =
        [7, 8, 4, 4]) := by
  obtain ⟨hasks, hover, -, -⟩ :=
    apply_local [0, 1] (by decide) [.push 2, .pop 2, .pushCurrent] [7, 8]
  obtain ⟨hexact, hframes⟩ := hover (by decide)
  obtain ⟨hasks', -, hruns, -⟩ :=
    apply_local [0, 1] (by decide) [.pop 2, .push 4, .pushCurrent] [7, 8]
  have hclamped : ¬Op.NeverAsks [0, 1] [.pop 2, .push 4, .pushCurrent] :=
    fun hnever => absurd (hasks'.mpr hnever) (by decide)
  exact ⟨by decide, ⟨hasks.mp (by decide), hexact, hframes.trans (by decide)⟩, hclamped,
    (hruns [0, 4, 4]).mpr (by decide), by decide⟩

end StateStack

end StackLexer
