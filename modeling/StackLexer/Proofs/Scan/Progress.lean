import StackLexer.Proofs.Scan.Step

namespace StackLexer.Scan

variable {set : TableSet} {scan next : Scan} {pieces : List Piece} {events : List Event}

-- The scan went on in the same text, past the text `read`.
structure Passes (scan next : Scan) (read : Text) : Prop where
  table : next.table = scan.table
  input : next.input = scan.input
  base : next.base = scan.base
  depth : next.depth = scan.depth
  cursor : next.cursor = scan.cursor + Text.size read
  rest : scan.rest = read ++ next.rest

theorem Passes.offset {read : Text} (h : scan.Passes next read) :
    next.offset = scan.offset + Text.size read := by
  rw [Scan.offset, Scan.offset, h.base, h.cursor, Nat.add_assoc]

theorem Passes.boundary {read : Text} (hscan : scan.Sound set) (h : scan.Passes next read) :
    next.input.isBoundary next.cursor = true := by
  obtain ⟨before, hinput, hcursor⟩ := hscan.rest_eq
  refine Text.isBoundary_iff.mpr ⟨before ++ read, next.rest, ?_, ?_⟩
  · rw [h.input, hinput, h.rest, List.append_assoc]
  · rw [Text.size_append, hcursor, h.cursor]

theorem Passes.refl (scan : Scan) : scan.Passes scan [] := ⟨rfl, rfl, rfl, rfl, rfl, rfl⟩

theorem Passes.trans {between : Scan} {read read' : Text} (h : scan.Passes between read)
    (h' : between.Passes next read') : scan.Passes next (read ++ read') where
  table := h'.table.trans h.table
  input := h'.input.trans h.input
  base := h'.base.trans h.base
  depth := h'.depth.trans h.depth
  cursor := by rw [h'.cursor, h.cursor, Text.size_append, Nat.add_assoc]
  rest := by rw [h.rest, h'.rest, List.append_assoc]

theorem passes_of_cursor (hscan : scan.Sound set) {read after : Text}
    (hrest : scan.rest = read ++ after)
    (hsame : next.table = scan.table ∧ next.input = scan.input ∧ next.base = scan.base ∧
      next.depth = scan.depth)
    (hcursor : next.cursor = scan.cursor + Text.size read) : scan.Passes next read := by
  obtain ⟨htable, hinput, hbase, hdepth⟩ := hsame
  obtain ⟨before, hbefore, hsize⟩ := hscan.rest_eq
  have hafter : next.rest = after := by
    apply rest_of_append
    · rw [hinput, hbefore, hrest, ← List.append_assoc]
    · rw [hcursor, Text.size_append, hsize]
  exact ⟨htable, hinput, hbase, hdepth, hcursor, hafter ▸ hrest⟩

-- The pieces of a step stand for the text that it passes.
theorem Steps.passes (hset : set.Sound) (hscan : scan.Sound set)
    (h : Steps set scan next pieces events) :
    ∃ read, scan.Passes next read ∧ Fills scan.offset pieces read ∧
      ∀ piece ∈ pieces, piece.Sound set scan.depth := by
  cases h with
  | @fail state c rest hfaces hrest =>
      exact ⟨[c], passes_of_cursor hscan hrest ⟨rfl, rfl, rfl, rfl⟩ rfl,
        errorTokens_fills _ _, errorTokens_sound _ _ _ _⟩
  | @take state rule found hfaces hspan =>
      obtain ⟨before, hinput, hsize⟩ := hscan.rest_eq
      have htiles := hfaces.cut_tiles hscan hspan
      rw [← hsize] at htiles
      obtain ⟨read, after, hrest, hstop, hfills, hsound⟩ :=
        flatMap_piecesOf_fills hset hscan _ before scan.rest found.span.stop hinput htiles
      rw [hsize] at hstop hfills
      exact ⟨read, passes_of_cursor hscan hrest ⟨rfl, rfl, rfl, rfl⟩ hstop, hfills, hsound⟩
  | @stay state rule found hfaces hspan hlimit =>
      exact ⟨[], passes_of_cursor hscan rfl ⟨rfl, rfl, rfl, rfl⟩ hspan, rfl, by simp⟩
  | @force state rule found c rest hfaces hspan hlimit hrest =>
      refine ⟨[c], passes_of_cursor hscan hrest ⟨rfl, rfl, rfl, rfl⟩ ?_,
        errorTokens_fills _ _, errorTokens_sound _ _ _ _⟩
      rw [skip, follow, hspan]
      rfl

-- The stack operations of a winner push states of the table.
theorem Faces.follow_stack (hset : set.Sound) (hscan : scan.Sound set) {state : State}
    {rule : Rule} {found : Match} (hfaces : scan.Faces set state (some (rule, found))) :
    ∃ table, set.table? scan.table = some table ∧
      (scan.follow rule found).stack.root = table.root ∧
      (scan.follow rule found).stack.Within table.states.length := by
  obtain ⟨table, htable, hstate, hrule⟩ := hfaces.rule_mem
  obtain ⟨table', htable', hroot, hwithin⟩ := hscan.stack
  obtain rfl := Option.some.inj (htable.symm.trans htable')
  have hops := ((hset.of_table? htable).rules state hstate rule hrule).ops
  refine ⟨table, htable, ?_, StateStack.apply_within hwithin hops⟩
  exact (StateStack.apply_root _ _).trans hroot

-- A step leaves the scan in order.
theorem Steps.sound (hset : set.Sound) (hscan : scan.Sound set)
    (h : Steps set scan next pieces events) : next.Sound set := by
  obtain ⟨read, hpasses, -, -⟩ := h.passes hset hscan
  have hcursor := hpasses.boundary hscan
  cases h with
  | fail => exact ⟨hscan.stack, hcursor, Nat.zero_le _⟩
  | @take state rule found hfaces hspan =>
      obtain ⟨hstart, -, -⟩ := hfaces.match_span hscan
      have hempty : found.span.isEmpty = false := decide_eq_false (by omega)
      exact ⟨hfaces.follow_stack hset hscan, hcursor, by simp [follow, hempty]⟩
  | @stay state rule found hfaces hspan hlimit =>
      refine ⟨hfaces.follow_stack hset hscan, hcursor, ?_⟩
      simp only [follow]
      split <;> omega
  | force hfaces => exact ⟨hfaces.follow_stack hset hscan, hcursor, Nat.zero_le _⟩

-- A step passes text and hands out pieces, or stays where it is and counts a match of no text.
theorem Steps.progress (hset : set.Sound) (hscan : scan.Sound set)
    (h : Steps set scan next pieces events) :
    (next.rest.length < scan.rest.length ∧ next.emptySteps = 0 ∧ pieces ≠ []) ∨
      (next.rest = scan.rest ∧ next.emptySteps = scan.emptySteps + 1 ∧ pieces = []) := by
  obtain ⟨read, hpasses, hfills, -⟩ := h.passes hset hscan
  -- the cursor tells the two apart
  have hcursor := hpasses.cursor
  have hmoved : scan.cursor < next.cursor → next.rest.length < scan.rest.length ∧ pieces ≠ [] := by
    intro hlt
    have hread : read ≠ [] := by
      rintro rfl
      rw [Text.size_nil] at hcursor
      omega
    have hpos := List.length_pos_iff.mpr hread
    rw [hpasses.rest, List.length_append]
    exact ⟨by omega, hfills.ne_nil hread⟩
  cases h with
  | @fail state c rest hfaces hrest =>
      have hc := Char.utf8Size_pos c
      obtain ⟨hlt, hne⟩ := hmoved (Nat.lt_add_of_pos_right hc)
      exact .inl ⟨hlt, rfl, hne⟩
  | @take state rule found hfaces hspan =>
      obtain ⟨hstart, -, -⟩ := hfaces.match_span hscan
      have hempty : found.span.isEmpty = false := decide_eq_false (by omega)
      obtain ⟨hlt, hne⟩ := hmoved hspan
      exact .inl ⟨hlt, by simp [follow, hempty], hne⟩
  | @stay state rule found hfaces hspan hlimit =>
      obtain ⟨hstart, -, -⟩ := hfaces.match_span hscan
      have hempty : found.span.isEmpty = true := decide_eq_true (by omega)
      have hread : read = [] := by
        rw [← Text.size_eq_zero]
        change found.span.stop = _ at hcursor
        omega
      refine .inr ⟨?_, by simp [follow, hempty], rfl⟩
      rw [hpasses.rest, hread]
      rfl
  | @force state rule found c rest hfaces hspan hlimit hrest =>
      have hc := Char.utf8Size_pos c
      have hlt : scan.cursor < ((scan.follow rule found).skip c).cursor := by
        change scan.cursor < found.span.stop + c.utf8Size
        omega
      obtain ⟨hlt, hne⟩ := hmoved hlt
      exact .inl ⟨hlt, rfl, hne⟩

-- How many steps a scan can still take: for each character left, one that passes it and as many
-- matches of no text as the options allow.
def budget (set : TableSet) (scan : Scan) : Nat :=
  scan.rest.length * (set.options.maxEmptySteps + 1) - scan.emptySteps

theorem budget_le (hscan : scan.Sound set) :
    scan.budget set ≤ scan.input.length * (set.options.maxEmptySteps + 1) := by
  obtain ⟨read, hinput, -⟩ := hscan.rest_eq
  have hlength : scan.rest.length ≤ scan.input.length := by
    rw [hinput, List.length_append]
    exact Nat.le_add_left _ _
  exact Nat.le_trans (Nat.sub_le _ _) (Nat.mul_le_mul_right _ hlength)

theorem Steps.budget_lt (hset : set.Sound) (hscan : scan.Sound set) (hdone : scan.isDone = false)
    (h : Steps set scan next pieces events) : next.budget set < scan.budget set := by
  have hlimit := hscan.emptySteps
  have hrest : 0 < scan.rest.length := by
    refine List.length_pos_iff.mpr fun hnil => ?_
    simp [hscan.isDone_iff.mpr hnil] at hdone
  unfold budget
  rcases h.progress hset hscan with ⟨hlt, hempty, -⟩ | ⟨hsame, hempty, -⟩
  · have hmul := Nat.mul_le_mul_right (set.options.maxEmptySteps + 1) hlt
    rw [Nat.succ_mul] at hmul
    omega
  · have hmul := Nat.mul_le_mul_right (set.options.maxEmptySteps + 1) hrest
    rw [hsame]
    omega

-- Only the first event of a step is itself a step.
theorem step_of_mem {won : Option Rule} {calls : List Event}
    (hcalls : ∀ event ∈ calls, ∃ context, event = .call context) {other : Scan}
    {won' : Option Rule} (hmem : .step other won' ∈ Event.step scan won :: calls) :
    other = scan ∧ won' = won := by
  rcases List.mem_cons.mp hmem with heq | hmem
  · exact Event.step.inj heq
  · obtain ⟨context, hcontext⟩ := hcalls _ hmem
    contradiction

-- What a step records: first itself, with the rule that won, then the calls of a callback.
theorem Steps.records (h : Steps set scan next pieces events) :
    ∃ state won calls, scan.Faces set state won ∧
      events = .step scan (won.map (·.1)) :: calls ∧
      ∀ event ∈ calls, ∃ context, event = .call context := by
  cases h with
  | fail hfaces => exact ⟨_, none, [], hfaces, rfl, by simp⟩
  | @take state rule found hfaces =>
      refine ⟨state, some (rule, found), scan.calls state rule found, hfaces, rfl, ?_⟩
      unfold calls
      split <;> simp
  | stay hfaces => exact ⟨_, _, [], hfaces, rfl, by simp⟩
  | force hfaces => exact ⟨_, _, [], hfaces, rfl, by simp⟩

-- A step on record is that of the scan, and names the rule that won.
theorem Steps.of_mem (h : Steps set scan next pieces events) {other : Scan} {won : Option Rule}
    (hmem : .step other won ∈ events) :
    other = scan ∧ ∃ state found, scan.Faces set state found ∧ won = found.map (·.1) := by
  obtain ⟨state, found, calls, hfaces, rfl, hcalls⟩ := h.records
  obtain ⟨rfl, rfl⟩ := step_of_mem hcalls hmem
  exact ⟨rfl, state, found, hfaces, rfl⟩

end StackLexer.Scan
