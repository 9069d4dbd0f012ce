import StackLexer.Scan.Stream

namespace StackLexer

-- The table has a rule with the delegation.
def TableSet.Declares (set : TableSet) (id : TableId) (handle : Handle) : Prop :=
  ∃ table, set.table? id = some table ∧
    ∃ state ∈ table.states, ∃ rule ∈ state.rules, handle ∈ rule.action.delegations

-- A reading says which result a computation gives and which events it records, so that a fact about
-- scans is proved once for every host. A host may keep a memory or a record, but a delegation leads
-- where it leads without one.
structure Reading (set : TableSet) {m : Type → Type} [Monad m] (host : Host m) where
  Gives : {α : Type} → m α → α → List Event → Prop
  pure {α : Type} (a : α) : Gives (pure a) a []
  bind {α β : Type} {x : m α} {f : α → m β} {a : α} {b : β} {events events' : List Event} :
    Gives x a events → Gives (f a) b events' → Gives (x >>= f) b (events ++ events')
  map {α β : Type} {x : m α} (f : α → β) {a : α} {events : List Event} :
    Gives x a events → Gives (f <$> x) (f a) events
  resolve (id : TableId) (handle : Handle) : set.Declares id handle →
    Gives (host.resolve id handle) (set.lookup? id handle.delegation) []
  record (event : Event) : Gives (host.record event) () [event]

namespace Reading

variable {set : TableSet} {m : Type → Type} [Monad m] {host : Host m} (R : Reading set host)
variable {α β : Type}

-- The computation runs into no fault.
def Ok (x : ExceptT Fault m α) (a : α) (events : List Event) : Prop :=
  R.Gives x.run (.ok a) events

theorem ok_pure (a : α) : R.Ok (Pure.pure a) a [] := R.pure (Except.ok a)

theorem ok_bind {x : ExceptT Fault m α} {f : α → ExceptT Fault m β} {a : α} {b : β}
    {events events' : List Event} (hx : R.Ok x a events) (hf : R.Ok (f a) b events') :
    R.Ok (x >>= f) b (events ++ events') :=
  R.bind hx hf

theorem ok_lift {x : m α} {a : α} {events : List Event} (h : R.Gives x a events) :
    R.Ok (monadLift x : ExceptT Fault m α) a events :=
  R.map Except.ok h

-- Steps that record nothing.
theorem ok_seq {x : ExceptT Fault m α} {f : α → ExceptT Fault m β} {a : α} {b : β}
    {events : List Event} (hx : R.Ok x a []) (hf : R.Ok (f a) b events) :
    R.Ok (x >>= f) b events :=
  R.ok_bind hx hf

theorem ok_orFault (fault : Fault) {value? : Option α} {value : α} (h : value? = some value) :
    R.Ok (Scan.orFault fault value?) value [] := by
  subst h
  exact R.ok_pure value

end Reading

namespace TableSet

def plainReading (set : TableSet) : Reading set set.plainHost where
  Gives x a _ := x = a
  pure _ := rfl
  bind := by rintro _ _ x f a b _ _ rfl rfl; rfl
  map := by rintro _ _ x f a _ rfl; rfl
  resolve _ _ _ := rfl
  record _ := rfl

-- A host that looks every delegation up and writes down all that happens, the last event last.
def tracer (set : TableSet) : Host (StateM (List Event)) where
  resolve current handle := pure (set.lookup? current handle.delegation)
  record event := modify (· ++ [event])

def tracerReading (set : TableSet) : Reading set set.tracer where
  Gives x a events := ∀ log, x log = (a, log ++ events)
  pure a log := Prod.ext rfl (List.append_nil log).symm
  bind {_ _ x f a b events events'} hx hf log := by
    change f (x log).1 (x log).2 = _
    rw [hx log, hf (log ++ events), List.append_assoc]
  map {_ _ x} f {a events} hx log := by
    change (f (x log).1, (x log).2) = _
    rw [hx log]
  resolve _ _ _ log := Prod.ext rfl (List.append_nil log).symm
  record event log := rfl

end TableSet

end StackLexer
