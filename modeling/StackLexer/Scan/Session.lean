import StackLexer.Scan.Stream

namespace StackLexer

-- What the scans of a set share: where each delegation leads, found out when it is first used, and
-- the calls of callbacks. `calls` has the latest call first.
structure Session where
  resolved : List (HandleKey × Option Target)
  calls : List MatchView
deriving DecidableEq, Repr

namespace Session

def empty : Session := ⟨[], []⟩

-- The answer kept with a delegation, or else the one found now, which is kept from here on.
def resolve (set : TableSet) (current : TableId) (handle : Handle) :
    StateM Session (Option Target) := fun session =>
  match session.resolved.lookup handle.key with
  | some answer => (answer, session)
  | none =>
      let answer := set.lookup? current handle.delegation
      (answer, { session with resolved := (handle.key, answer) :: session.resolved })

def record (event : Event) : StateM Session Unit := fun session =>
  match event with
  | .call context => ((), { session with calls := context :: session.calls })
  | .step _ _ => ((), session)

end Session

def TableSet.liveHost (set : TableSet) : Host (StateM Session) where
  resolve := Session.resolve set
  record := Session.record

-- What a scan does to a session and gives.
abbrev Live (α : Type) := ExceptT Fault (StateM Session) α

namespace Stream

-- The stream as the debugging output writes it; `name` is that of its table.
def debug (stream : Stream) (name : String) : String :=
  let scan := stream.outer
  s!"TokenStream \x7b table: {String.ofList (Text.quoted name.toList)}, offset: {scan.offset}, " ++
    s!"depth: {scan.depth}, stack: {scan.stack.debug}, .. \x7d"

end Stream

end StackLexer
