namespace StackLexer

-- Scanning never fails, so these are the only errors of a lexer. Each names the place where the
-- defect is.
inductive BuildError where
  | missingRoot (grammar : String)
  | unknownState (grammar source state : String)
  | includeCycle (grammar : String) (cycle : List String)
  | invalidPattern (grammar state pattern message : String)
  | emptyMatchWithoutTransition (grammar state pattern : String)
  | zeroPop (grammar state pattern : String)
  | groupCountMismatch (grammar state pattern : String) (actions groups : Nat)
  | unknownLexer (grammar target : String)
  | unknownDelegationState (grammar target state : String)
  | duplicateLexer (name : String)
deriving DecidableEq, Repr

def BuildError.message : BuildError → String
  | .missingRoot grammar => s!"grammar '{grammar}' has no 'root' state"
  | .unknownState grammar source state =>
      s!"grammar '{grammar}': state '{source}' refers to unknown state '{state}'"
  | .includeCycle grammar cycle =>
      s!"grammar '{grammar}': include cycle " ++ " -> ".intercalate cycle
  | .invalidPattern grammar state pattern message =>
      s!"grammar '{grammar}', state '{state}': invalid pattern '{pattern}': {message}"
  | .emptyMatchWithoutTransition grammar state pattern =>
      s!"grammar '{grammar}', state '{state}': pattern '{pattern}' can match the empty string " ++
        "but has no transition"
  | .zeroPop grammar state pattern =>
      s!"grammar '{grammar}', state '{state}': '#pop:0' in rule '{pattern}'"
  | .groupCountMismatch grammar state pattern actions groups =>
      s!"grammar '{grammar}', state '{state}': rule '{pattern}' assigns {actions} groups " ++
        s!"but the pattern has {groups}"
  | .unknownLexer grammar target => s!"grammar '{grammar}' delegates to unknown lexer '{target}'"
  | .unknownDelegationState grammar target state =>
      s!"grammar '{grammar}' delegates to state '{state}' " ++
        s!"which lexer '{target}' does not define"
  | .duplicateLexer name => s!"lexer name or alias '{name}' is defined twice"

end StackLexer
