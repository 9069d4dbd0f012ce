import StackLexer.Text.Blank
import StackLexer.Text.Count

namespace StackLexer

inductive StackOp where
  | push (state : String)
  | pushCurrent
  | pop (count : Nat)
deriving DecidableEq, Repr

-- Why a text is no notation for an operation.
inductive NotationError where
  | empty
  | badPopCount (text : String)
  | zeroPop
  | unknownDirective (text : String)
deriving DecidableEq, Repr

def NotationError.message : NotationError → String
  | .empty => "empty state name in transition"
  | .badPopCount text => s!"invalid pop count in '{text}'"
  | .zeroPop => "'#pop:0' does not change the stack"
  | .unknownDirective text => s!"unknown transition directive '{text}'"

namespace StackOp

-- The operation that a notation stands for. `#push` pushes the current state again, `#pop` removes
-- the top state and `#pop:3` the top three; any other text pushes the state it names. White space
-- around the notation is dropped.
def parse (text : String) : Except NotationError StackOp :=
  let trimmed := Text.trim text.toList
  let shown := String.ofList trimmed
  if trimmed.isEmpty then .error .empty
  else if shown = "#push" then .ok .pushCurrent
  else if shown = "#pop" then .ok (.pop 1)
  else match Text.stripLead? "#pop:".toList trimmed with
    | some count => match Text.count? count with
      | none => .error (.badPopCount shown)
      | some 0 => .error .zeroPop
      | some (n + 1) => .ok (.pop (n + 1))
    | none =>
      if trimmed.head? = some '#' then .error (.unknownDirective shown)
      else .ok (.push shown)

def print : StackOp → String
  | .push state => state
  | .pushCurrent => "#push"
  | .pop count => if count = 1 then "#pop" else s!"#pop:{count}"

end StackOp

-- What a rule does to the stack of states once it has matched: operations, applied in order.
structure Transition where
  ops : List StackOp
deriving DecidableEq, Repr, Inhabited

namespace Transition

def none : Transition := ⟨[]⟩

def push (state : String) : Transition := ⟨[.push state]⟩

-- The last state ends on top.
def pushAll (states : List String) : Transition := ⟨states.map .push⟩

def pushCurrent : Transition := ⟨[.pushCurrent]⟩

def popN (count : Nat) : Transition := ⟨[.pop count]⟩

def pop : Transition := popN 1

def popPush (count : Nat) (states : List String) : Transition :=
  ⟨.pop count :: states.map .push⟩

def andThen (transition : Transition) (op : StackOp) : Transition := ⟨transition.ops ++ [op]⟩

def isEmpty (transition : Transition) : Bool := transition.ops.isEmpty

-- One notation per operation; the first that cannot be read decides the error.
def parseAll (texts : List String) : Except NotationError Transition :=
  Transition.mk <$> texts.mapM StackOp.parse

def parse (text : String) : Except NotationError Transition := parseAll [text]

def print (transition : Transition) : String :=
  "[" ++ ", ".intercalate (transition.ops.map StackOp.print) ++ "]"

end Transition

end StackLexer
