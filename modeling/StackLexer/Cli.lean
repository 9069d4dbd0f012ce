import StackLexer.Cli.Command
import StackLexer.Loader.File
import StackLexer.Scan.Stream
import StackLexer.Token.Line

namespace StackLexer.Cli

structure Outcome where
  code : Nat
  stdout : String
  stderr : String
deriving DecidableEq, Repr

namespace Outcome

def success (stdout : String) : Outcome := ⟨0, stdout, ""⟩

def failure (message : String) : Outcome := ⟨1, "", "Error: " ++ message ++ "\n"⟩

end Outcome

def versionText : String := "statelex 0.1.0\n"

def usageText : String :=
  "Usage: statelex tokenize -g GRAMMAR... [-l LEXER] [-f text|json] [-c OPTIONS] INPUT\n" ++
  "       statelex check -g GRAMMAR...\n" ++
  "       statelex kinds\n"

-- What a command reads: the files, and the text of standard input.
structure Input where
  files : Files
  stdin : Except FileFault Text

def loadSet (files : Files) (paths : List String) (options : Options) :
    Except String TableSet := do
  let grammars ← (files.loadGrammars paths).mapError LoadError.message
  (TableSet.build grammars options).mapError BuildError.message

-- The table to start with: the first one, if no name is given.
def startTable (set : TableSet) : Option String → Except String TableId
  | none => if set.tables.isEmpty then .error "no grammars given" else .ok 0
  | some name => match set.id? name with
    | some id => .ok id
    | none => .error s!"no lexer named '{name}'"

def readSource (input : Input) : Source → Except String Text
  | .stdin => input.stdin.mapError fun fault => s!"reading stdin: {fault.message}"
  | .file path => (input.files path).mapError fun fault => s!"reading {path}: {fault.message}"

def tokenLine (style : Style) (token : Token) : Text :=
  match style with
  | .columns => token.columns ++ ['\n']
  | .json => token.json ++ ['\n']

-- The options are read first, then the grammars, and the text to be scanned last.
def tokenize (input : Input) (command : Tokenize) : Except String String := do
  let options ← match command.options? with
    | some path => (input.files.loadOptions path).mapError LoadError.message
    | none => .ok .standard
  let set ← loadSet input.files command.grammars options
  let id ← startTable set command.lexer?
  let text ← readSource input command.source
  match set.tokens id text with
  | .ok tokens => return String.ofList (tokens.flatMap (tokenLine command.style))
  | .error _ => .error "the tables are damaged"

def tableLine (table : Table) : String :=
  let aliases :=
    if table.aliases.isEmpty then "" else " (aliases: " ++ ", ".intercalate table.aliases ++ ")"
  s!"{table.name}{aliases}: {table.states.length} states, {table.ruleCount} rules\n"

def check (input : Input) (grammars : List String) : Except String String := do
  let set ← loadSet input.files grammars .standard
  return String.join (set.tables.map tableLine)

-- Two spaces for each level of the tree of kinds.
def kindLine (kind : Kind) : String :=
  String.ofList (List.replicate (2 * kind.depth) ' ') ++ kind.dottedName ++ "\n"

def outcome : Except String String → Outcome
  | .ok stdout => .success stdout
  | .error message => .failure message

-- What a command writes, as a function of the files and of standard input.
def Command.run (input : Input) : Command → Outcome
  | .help => .success usageText
  | .version => .success versionText
  | .tokenize command => outcome (Cli.tokenize input command)
  | .check grammars => outcome (Cli.check input grammars)
  | .kinds => .success (String.join (Kind.all.map kindLine))

-- Arguments that give no command are told how to give one.
def run (input : Input) (args : List String) : Outcome :=
  match Command.parse? args with
  | some command => command.run input
  | none => ⟨2, "", usageText⟩

-- The files that a command reads, if it gets that far.
def Command.paths : Command → List String
  | .tokenize command =>
      let source := match command.source with
        | .stdin => []
        | .file path => [path]
      command.options?.toList ++ command.grammars ++ source
  | .check grammars => grammars
  | _ => []

def Command.readsStdin : Command → Bool
  | .tokenize command => command.source == .stdin
  | _ => false

end StackLexer.Cli
