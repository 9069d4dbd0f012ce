import StackLexer.Loader.Field

namespace StackLexer

-- What a reader gives is good, if it gives anything.
def Reader.Yields {α : Type} (reader : Reader α) (good : α → Prop) : Prop :=
  ∀ scope jumps value jumps', reader scope jumps = .ok (value, jumps') → good value

namespace Reader

namespace Yields

variable {α β : Type} {reader : Reader α} {good : α → Prop} {good' : β → Prop}

theorem any : reader.Yields fun _ => True := fun _ _ _ _ _ => trivial

theorem pure {value : α} (h : good value) : Yields (Pure.pure value) good := by
  intro scope jumps read jumps' hread
  cases hread
  exact h

theorem refuse {error : ReadError} : Yields (Reader.refuse error) good := nofun

theorem bind {next : α → Reader β} (h : reader.Yields good)
    (hnext : ∀ value, good value → (next value).Yields good') : Yields (reader >>= next) good' := by
  intro scope jumps read jumps' hread
  cases hfirst : reader scope jumps with
  | error fault =>
    have : (reader >>= next) scope jumps = .error fault := by
      simp [Bind.bind, ReaderT.bind, StateT.bind, Except.bind, hfirst]
    rw [this] at hread
    cases hread
  | ok given =>
    have : (reader >>= next) scope jumps = next given.1 scope given.2 := by
      simp [Bind.bind, ReaderT.bind, StateT.bind, Except.bind, hfirst]
    rw [this] at hread
    exact hnext _ (h _ _ _ _ hfirst) _ _ _ _ hread

-- What was read so far does not matter.
theorem next {next : α → Reader β} (hnext : ∀ value, (next value).Yields good') :
    Yields (reader >>= next) good' :=
  any.bind fun value _ => hnext value

theorem map {f : α → β} (h : reader.Yields good) (hf : ∀ value, good value → good' (f value)) :
    Yields (f <$> reader) good' := by
  rw [map_eq_pure_bind]
  exact h.bind fun value hvalue => pure (hf value hvalue)

theorem mapFault {change : ReadFault → ReadFault} (h : reader.Yields good) :
    Yields (reader.mapFault change) good := by
  intro scope jumps read jumps' hread
  apply h scope jumps read jumps'
  unfold Reader.mapFault at hread
  cases hgiven : reader scope jumps with
  | error fault =>
    rw [hgiven] at hread
    cases hread
  | ok given =>
    rw [hgiven] at hread
    exact hread

theorem located (h : reader.Yields good) : Yields reader.located good := h.mapFault

theorem under {step : Step} (h : reader.Yields good) : Yields (reader.under step) good := h.mapFault

theorem inside (h : reader.Yields good) : Yields reader.inside good := by
  intro scope jumps read jumps' hread
  unfold Reader.inside at hread
  split at hread
  · cases hread
  · exact h _ _ _ _ hread

end Yields

theorem run_yields {α : Type} {reader : Node → Reader α} {good : α → Prop} {document : Document}
    {value : α} (h : (reader document.root).Yields good) (hrun : run reader document = .ok value) :
    good value := by
  unfold run at hrun
  cases hgiven : reader document.root ⟨document, document.maxDepth⟩ 0 with
  | error fault => simp [hgiven, Except.map] at hrun
  | ok given =>
    simp only [hgiven, Except.map, Except.ok.injEq] at hrun
    exact hrun ▸ h _ _ _ _ hgiven

end Reader

namespace Loader

open Reader

section Generic

variable {α σ : Type} {good : α → Prop} {holds : σ → Prop}

theorem mismatch_yields {wanted : String} {node : Node} :
    (mismatch wanted node : Reader α).Yields good := by
  unfold mismatch
  apply Yields.located
  split
  · exact .next fun _ => .next fun _ => .refuse
  · exact .refuse
  · exact .refuse
  · exact .refuse
  · exact .refuse

theorem readOptional_yields {read : Node → Reader α} (h : ∀ node, (read node).Yields good)
    (node : Node) : (readOptional read node).Yields fun value? => ∀ value ∈ value?, good value := by
  unfold readOptional
  apply Yields.next
  intro node
  apply Yields.next
  intro isNull
  split
  · exact .pure nofun
  · exact (h node).map fun value hvalue _ hmem => Option.some.inj hmem ▸ hvalue

theorem readItems_yields {read : Node → Reader α} (h : ∀ node, (read node).Yields good)
    (nodes : List Node) (index : Nat) :
    (readItems read index nodes).Yields fun values => ∀ value ∈ values, good value := by
  induction nodes generalizing index with
  | nil => exact .pure nofun
  | cons node rest ih =>
    refine (h node).under.bind ?_
    intro value hvalue
    refine (ih (index + 1)).bind ?_
    intro values hvalues
    exact .pure (List.forall_mem_cons.mpr ⟨hvalue, hvalues⟩)

theorem readList_yields {read : Node → Reader α} (h : ∀ node, (read node).Yields good)
    (node : Node) : (readList read node).Yields fun values => ∀ value ∈ values, good value := by
  unfold readList
  apply Yields.next
  intro node
  split
  · exact (readItems_yields h _ 0).inside.located
  · apply Yields.next
    intro format
    split
    · exact .pure nofun
    · exact mismatch_yields

theorem readPairs_yields {readKey : Node → Reader String}
    {add : String → Step → Node → σ → Reader σ}
    (h : ∀ name step node state, holds state → (add name step node state).Yields holds)
    (pairs : List (Node × Node)) {state : σ} (hstate : holds state) :
    (readPairs readKey add pairs state).Yields holds := by
  induction pairs generalizing state with
  | nil => exact .pure hstate
  | cons pair rest ih =>
    apply Yields.next
    intro name
    refine (h name _ _ state hstate).bind ?_
    intro next hnext
    exact ih hnext

variable {shape : Shape σ}
  (hread : ∀ name node record, holds record → (shape.read name node record).Yields holds)

include hread

theorem Shape.addField_yields (name : String) (step : Step) (node : Node) (state : Partial σ)
    (hstate : holds state.record) :
    (shape.addField name step node state).Yields fun next => holds next.record := by
  unfold Shape.addField
  split
  · exact .refuse
  · split
    · exact .refuse
    · refine (hread name node state.record hstate).under.bind ?_
      intro record hrecord
      exact .pure hrecord

theorem Shape.readPositions_yields (names : List String) (nodes : List Node) (index : Nat)
    {record : σ} (hrecord : holds record) :
    (shape.readPositions index names nodes record).Yields holds := by
  fun_induction shape.readPositions index names nodes record with
  | case1 => exact .pure hrecord
  | case2 => exact .refuse
  | case3 => exact .refuse
  | case4 => exact .pure hrecord
  | case5 index name names node rest record ih =>
    refine (hread name node record hrecord).bind ?_
    intro next hnext
    exact ih next hnext

omit hread in
theorem Shape.finish_yields {state : Partial σ} (hstate : holds state.record) :
    (shape.finish state).Yields holds := by
  unfold Shape.finish
  split
  · exact .refuse
  · exact .pure hstate

-- A structure has what its fields keep, whatever form the node has.
theorem Shape.readNode_yields {start : σ} (hstart : holds start) (node : Node) :
    (shape.readNode start node).Yields holds := by
  unfold Shape.readNode
  apply Yields.next
  intro node
  apply Yields.next
  intro format
  apply Yields.located
  split
  · apply Yields.inside
    refine (readPairs_yields (Shape.addField_yields hread) _ hstart).bind ?_
    intro state hstate
    exact Shape.finish_yields hstate
  · exact (Shape.readPositions_yields hread _ _ 0 hstart).inside
  · split
    · exact Shape.finish_yields hstart
    · exact mismatch_yields

end Generic

end Loader

end StackLexer
