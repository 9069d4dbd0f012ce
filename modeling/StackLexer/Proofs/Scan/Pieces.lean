import StackLexer.Proofs.Scan.Host
import StackLexer.Proofs.Scan.Partition
import StackLexer.Proofs.Stack
import StackLexer.Proofs.Table.Sound

namespace StackLexer

-- The text that a piece stands for, and where it starts in the outermost input.
def Piece.text : Piece → Text
  | .token made => made.text
  | .nested scan => scan.input

def Piece.start : Piece → Nat
  | .token made => made.start
  | .nested scan => scan.base

-- The pieces lie end to end from an offset on, none is empty, and together they give the text.
def Fills : Nat → List Piece → Text → Prop
  | _, [], text => text = []
  | start, piece :: rest, text =>
      piece.start = start ∧ piece.text ≠ [] ∧
        ∃ after, text = piece.text ++ after ∧ Fills (start + Text.size piece.text) rest after

theorem Fills.append {start : Nat} {first second : List Piece} {text text' : Text}
    (hfirst : Fills start first text) (hsecond : Fills (start + Text.size text) second text') :
    Fills start (first ++ second) (text ++ text') := by
  induction first generalizing start text with
  | nil =>
      obtain rfl := hfirst
      exact hsecond
  | cons piece first ih =>
      obtain ⟨hstart, hne, after, rfl, hrest⟩ := hfirst
      rw [Text.size_append, ← Nat.add_assoc] at hsecond
      exact ⟨hstart, hne, after ++ text', List.append_assoc .., ih hrest hsecond⟩

theorem Fills.ne_nil {start : Nat} {pieces : List Piece} {text : Text}
    (h : Fills start pieces text) (hne : text ≠ []) : pieces ≠ [] := by
  rintro rfl
  exact hne h

namespace StateStack

-- The frames are states of a table with `count` states.
def Within (count : Nat) (stack : StateStack) : Prop := ∀ id ∈ stack.frames, id < count

theorem within_iff {count : Nat} {stack : StateStack} :
    stack.Within count ↔ stack.root < count ∧ ∀ id ∈ stack.above, id < count := by
  simp [Within, frames]

theorem top_lt {count : Nat} {stack : StateStack} (h : stack.Within count) : stack.top < count := by
  obtain ⟨hroot, habove⟩ := within_iff.mp h
  unfold top
  cases hstack : stack.above with
  | nil => exact hroot
  | cons id rest => exact habove id (by simp [hstack])

theorem push_within {count : Nat} {stack : StateStack} {id : StateId} (h : stack.Within count)
    (hid : id < count) : (stack.push id).Within count := by
  obtain ⟨hroot, habove⟩ := within_iff.mp h
  exact within_iff.mpr ⟨hroot, List.forall_mem_cons.mpr ⟨hid, habove⟩⟩

theorem apply_within {count : Nat} {stack : StateStack} {ops : List Op} (h : stack.Within count)
    (hops : ∀ op ∈ ops, op.Within count) : (stack.apply ops).1.Within count := by
  induction ops generalizing stack with
  | nil => exact h
  | cons op ops ih =>
      obtain ⟨hop, hops⟩ := List.forall_mem_cons.mp hops
      have hstep : (stack.step op).Within count := by
        cases op with
        | push id => exact push_within h hop
        | pushCurrent => exact push_within h (top_lt h)
        | pop n =>
            obtain ⟨hroot, habove⟩ := within_iff.mp h
            exact within_iff.mpr ⟨hroot, fun id hid => habove id (List.mem_of_mem_drop hid)⟩
      exact ih hstep hops

end StateStack

-- A scan that every step of it leaves in order: its frames are states of its table, its cursor
-- is a boundary, and its matches of no text in a row are within the limit.
structure Scan.Sound (set : TableSet) (scan : Scan) : Prop where
  stack : ∃ table, set.table? scan.table = some table ∧ scan.stack.root = table.root ∧
    scan.stack.Within table.states.length
  cursor : scan.input.isBoundary scan.cursor = true
  emptySteps : scan.emptySteps ≤ set.options.maxEmptySteps

-- A scan handed out as a piece has not begun, and lies one level deeper.
def Piece.Sound (set : TableSet) (depth : Nat) : Piece → Prop
  | .token _ => True
  | .nested inner =>
      inner.Sound set ∧ inner.cursor = 0 ∧ inner.depth = depth + 1 ∧
        depth < set.options.maxDelegationDepth

namespace Scan

theorem fresh_sound {set : TableSet} (hset : set.Sound) {id : TableId} {table : Table}
    (htable : set.table? id = some table) {state? : Option StateId}
    (hstate : ∀ state ∈ state?, state < table.states.length) (input : Text) (base depth : Nat) :
    (fresh id table.root state? input base depth).Sound set where
  stack := by
    have hroot : (StateStack.new table.root).Within table.states.length :=
      StateStack.within_iff.mpr ⟨(hset.of_table? htable).root, by simp [StateStack.new]⟩
    refine ⟨table, htable, ?_⟩
    cases state? with
    | none => exact ⟨rfl, hroot⟩
    | some state => exact ⟨rfl, StateStack.push_within hroot (hstate state rfl)⟩
  cursor := Text.isBoundary_append [] input
  emptySteps := Nat.zero_le _

-- The text behind the cursor.
def rest (scan : Scan) : Text := (scan.input.drop? scan.cursor).getD []

theorem Sound.rest_eq {set : TableSet} {scan : Scan} (h : scan.Sound set) :
    ∃ read, scan.input = read ++ scan.rest ∧ Text.size read = scan.cursor := by
  obtain ⟨read, rest, hinput, hcursor⟩ := Text.isBoundary_iff.mp h.cursor
  have hrest : scan.rest = rest := by rw [Scan.rest, hinput, ← hcursor, Text.drop?_append]; rfl
  exact ⟨read, hrest ▸ hinput, hcursor⟩

theorem Sound.place {set : TableSet} {scan : Scan} (h : scan.Sound set) :
    ∃ place, scan.input.place? scan.cursor = some place ∧ place.offset = scan.cursor ∧
      place.after = scan.rest := by
  obtain ⟨read, hinput, hcursor⟩ := h.rest_eq
  have hplace := Text.place?_append read scan.rest
  rw [← hinput, hcursor] at hplace
  exact ⟨_, hplace, rfl, rfl⟩

theorem rest_of_append {scan : Scan} {read rest : Text} (hinput : scan.input = read ++ rest)
    (hcursor : scan.cursor = Text.size read) : scan.rest = rest := by
  rw [Scan.rest, hinput, hcursor, Text.drop?_append]
  rfl

theorem rest_of_start {scan : Scan} (hcursor : scan.cursor = 0) : scan.rest = scan.input :=
  rest_of_append rfl (hcursor.trans Text.size_nil.symm)

theorem Sound.isDone_iff {set : TableSet} {scan : Scan} (h : scan.Sound set) :
    scan.isDone = true ↔ scan.rest = [] := by
  obtain ⟨read, hinput, hcursor⟩ := h.rest_eq
  have hsize := congrArg Text.size hinput
  rw [Text.size_append, hcursor] at hsize
  rw [isDone, decide_eq_true_iff, ← Text.size_eq_zero, hsize]
  omega

theorem Sound.cursor_eq {set : TableSet} {scan : Scan} (h : scan.Sound set)
    (hdone : scan.isDone = true) : scan.cursor = scan.input.size := by
  obtain ⟨read, hinput, hcursor⟩ := h.rest_eq
  rw [h.isDone_iff.mp hdone, List.append_nil] at hinput
  rw [hinput, hcursor]

-- The segments of a match, whatever its action.
def view (scan : Scan) (state : State) (found : Match) : MatchView where
  input := scan.input
  captures := found.captures
  state := state.name
  depth := scan.stack.depth

def cut (scan : Scan) (state : State) (rule : Rule) (found : Match) :
    List (Segment (Part Handle)) :=
  match rule.action with
  | .token kind => [.claimed (.kind kind) found.span]
  | .delegate handle => [.claimed (.delegate handle) found.span]
  | .groups parts => Segment.partition scan.input found.span (groupPieces parts found.groups)
  | .callback call => Segment.partition scan.input found.span
      ((call.run (scan.view state found)).map fun (kind, span) => (.kind kind, span))

-- The calls of callbacks that a match makes.
def calls (scan : Scan) (state : State) (rule : Rule) (found : Match) : List Event :=
  match rule.action with
  | .callback _ => [.call (scan.view state found)]
  | _ => []

-- The errors of a span.
def errorPieces (scan : Scan) (span : Span) : List Piece :=
  errorTokens (scan.base + span.start) ((scan.input.slice? span).getD [])

-- What a delegated span becomes.
def delegated (set : TableSet) (scan : Scan) (handle : Handle) (span : Span) : List Piece :=
  if set.options.maxDelegationDepth ≤ scan.depth then scan.errorPieces span
  else match set.lookup? scan.table handle.delegation with
    | none => scan.errorPieces span
    | some target => ((set.table? target.table).map fun table =>
        .nested (fresh target.table table.root target.state? ((scan.input.slice? span).getD [])
          (scan.base + span.start) (scan.depth + 1))).toList

def piecesOf (set : TableSet) (scan : Scan) : Segment (Part Handle) → List Piece
  | .claimed (.kind kind) span =>
      [.token ⟨kind, scan.base + span.start, (scan.input.slice? span).getD []⟩]
  | .claimed (.delegate handle) span => scan.delegated set handle span
  | .unclaimed span => scan.errorPieces span

theorem errorTokens_fills (start : Nat) (text : Text) :
    Fills start (errorTokens start text) text := by
  induction text generalizing start with
  | nil => rfl
  | cons c text ih => exact ⟨rfl, by simp [Piece.text], text, rfl, ih _⟩

theorem errorTokens_sound (set : TableSet) (depth start : Nat) (text : Text) :
    ∀ piece ∈ errorTokens start text, piece.Sound set depth := by
  induction text generalizing start with
  | nil => simp [errorTokens]
  | cons c text ih => exact List.forall_mem_cons.mpr ⟨trivial, ih _⟩

section Segments

variable {set : TableSet} {scan : Scan} {first middle last : Text}

theorem slice?_eq (hinput : scan.input = first ++ middle ++ last) :
    scan.input.slice? ⟨Text.size first, Text.size first + Text.size middle⟩ = some middle := by
  rw [hinput, Text.slice?_append]

theorem errorPieces_fills (hinput : scan.input = first ++ middle ++ last) :
    Fills (scan.base + Text.size first)
      (scan.errorPieces ⟨Text.size first, Text.size first + Text.size middle⟩) middle := by
  rw [errorPieces, slice?_eq hinput]
  exact errorTokens_fills _ _

theorem delegated_fills (hset : set.Sound) (hscan : scan.Sound set) (handle : Handle)
    (hinput : scan.input = first ++ middle ++ last) (hne : middle ≠ []) :
    Fills (scan.base + Text.size first)
        (scan.delegated set handle ⟨Text.size first, Text.size first + Text.size middle⟩) middle ∧
      ∀ piece ∈ scan.delegated set handle ⟨Text.size first, Text.size first + Text.size middle⟩,
        piece.Sound set scan.depth := by
  have herrors := errorPieces_fills hinput
  unfold delegated
  split
  · exact ⟨herrors, errorTokens_sound _ _ _ _⟩
  · rename_i hdepth
    split
    · exact ⟨herrors, errorTokens_sound _ _ _ _⟩
    · rename_i target htarget
      obtain ⟨current, hcurrent, -⟩ := hscan.stack
      obtain ⟨table, htable, hstate⟩ :=
        hset.lookup? (List.getElem?_eq_some_iff.mp hcurrent).1 htarget
      simp only [htable, Option.map_some, Option.toList_some, slice?_eq hinput, Option.getD_some]
      refine ⟨⟨rfl, hne, [], (List.append_nil _).symm, rfl⟩, ?_⟩
      rintro piece hmem
      obtain rfl := List.mem_singleton.mp hmem
      exact ⟨fresh_sound hset htable hstate _ _ _, rfl, rfl, by omega⟩

-- The pieces of a segment fill it, and the scans among them are sound.
theorem piecesOf_fills (hset : set.Sound) (hscan : scan.Sound set) (segment : Segment (Part Handle))
    (hinput : scan.input = first ++ middle ++ last) (hne : middle ≠ [])
    (hspan : segment.span = ⟨Text.size first, Text.size first + Text.size middle⟩) :
    Fills (scan.base + Text.size first) (scan.piecesOf set segment) middle ∧
      ∀ piece ∈ scan.piecesOf set segment, piece.Sound set scan.depth := by
  cases segment with
  | claimed part span =>
      obtain rfl : span = _ := hspan
      cases part with
      | kind kind =>
          simp only [piecesOf, slice?_eq hinput]
          exact ⟨⟨rfl, hne, [], (List.append_nil _).symm, rfl⟩, by simp [Piece.Sound]⟩
      | delegate handle => exact delegated_fills hset hscan handle hinput hne
  | unclaimed span =>
      obtain rfl : span = _ := hspan
      exact ⟨errorPieces_fills hinput, errorTokens_sound _ _ _ _⟩

-- Segments that lie end to end become pieces that lie end to end.
theorem flatMap_piecesOf_fills (hset : set.Sound) (hscan : scan.Sound set)
    (segments : List (Segment (Part Handle))) (read rest : Text) (stop : Nat)
    (hinput : scan.input = read ++ rest)
    (htiles : Segment.Tiles scan.input (Text.size read) segments stop) :
    ∃ middle last, rest = middle ++ last ∧ stop = Text.size read + Text.size middle ∧
      Fills (scan.base + Text.size read) (segments.flatMap (scan.piecesOf set)) middle ∧
      ∀ piece ∈ segments.flatMap (scan.piecesOf set), piece.Sound set scan.depth := by
  induction segments generalizing read rest with
  | nil =>
      obtain rfl := htiles
      exact ⟨[], rest, rfl, rfl, rfl, by simp⟩
  | cons segment segments ih =>
      obtain ⟨hstart, hlt, hboundary, htiles⟩ := htiles
      obtain ⟨middle, last, rfl, hstop⟩ :=
        Text.exists_of_isBoundary_append (Nat.le_of_lt hlt) (hinput ▸ hboundary)
      have hne : middle ≠ [] := by
        rintro rfl
        simp only [Text.size_nil] at hstop
        omega
      have hspan : segment.span = ⟨Text.size read, Text.size read + Text.size middle⟩ := by
        rw [← hstop, ← hstart]
      rw [← List.append_assoc] at hinput
      obtain ⟨hfills, hsound⟩ := piecesOf_fills hset hscan segment hinput hne hspan
      obtain ⟨middle', last', rfl, rfl, hfills', hsound'⟩ :=
        ih (read ++ middle) last hinput (by rwa [Text.size_append, ← hstop])
      refine ⟨middle ++ middle', last', (List.append_assoc ..).symm, ?_, ?_, ?_⟩
      · simp only [Text.size_append]; omega
      · rw [Text.size_append, ← Nat.add_assoc] at hfills'
        exact hfills.append hfills'
      · rw [List.flatMap_cons]
        exact List.forall_mem_append.mpr ⟨hsound, hsound'⟩

end Segments

end Scan

end StackLexer
