import StackLexer.Cli.Args

namespace StackLexer.Cli

inductive Style where
  | columns
  | json
deriving DecidableEq, Repr

-- Where the text to be scanned comes from.
inductive Source where
  | stdin
  | file (path : String)
deriving DecidableEq, Repr

structure Tokenize where
  grammars : List String
  lexer? : Option String
  options? : Option String
  style : Style
  source : Source
deriving DecidableEq, Repr

inductive Command where
  | help
  | version
  | tokenize (command : Tokenize)
  | check (grammars : List String)
  | kinds
deriving DecidableEq, Repr

def helpFlag : Flag := ⟨'h', "help", false⟩

def versionFlag : Flag := ⟨'V', "version", false⟩

def verboseFlag : Flag := ⟨'v', "verbose", false⟩

def grammarFlag : Flag := ⟨'g', "grammar", true⟩

def tokenizeFlags : List Flag :=
  [helpFlag, verboseFlag, grammarFlag, ⟨'l', "lexer", true⟩, ⟨'f', "format", true⟩,
   ⟨'c', "config", true⟩]

namespace Style

def parse? : String → Option Style
  | "text" => some .columns
  | "json" => some .json
  | _ => none

end Style

namespace Source

def ofText (text : String) : Source := if text = "-" then .stdin else .file text

end Source

-- What the arguments of a command have told so far.
structure Draft where
  grammars : List String
  lexer? : Option String
  options? : Option String
  style? : Option Style
  source? : Option Source
deriving DecidableEq, Repr

namespace Draft

def empty : Draft := ⟨[], none, none, none, none⟩

-- Grammars add up; everything else is said at most once.
def add? (draft : Draft) : Arg → Option Draft
  | .value "grammar" path => some { draft with grammars := draft.grammars ++ [path] }
  | .value "lexer" name =>
      if draft.lexer?.isSome then none else some { draft with lexer? := some name }
  | .value "config" path =>
      if draft.options?.isSome then none else some { draft with options? := some path }
  | .value "format" style =>
      if draft.style?.isSome then none
      else (Style.parse? style).map fun style => { draft with style? := some style }
  | .free source =>
      if draft.source?.isSome then none
      else some { draft with source? := some (.ofText source) }
  | .flag "verbose" => some draft
  | _ => none

-- The draft after the arguments, or a call for help before anything is wrong with them.
def read (draft : Draft) : List Arg → Option (Draft ⊕ Command)
  | [] => some (.inl draft)
  | .flag "help" :: _ => some (.inr .help)
  | arg :: rest => (draft.add? arg).bind fun draft => draft.read rest

def tokenize? (draft : Draft) : Option Command := do
  if draft.grammars.isEmpty then none
  else return .tokenize {
    grammars := draft.grammars
    lexer? := draft.lexer?
    options? := draft.options?
    style := draft.style?.getD .columns
    source := ← draft.source? }

def check? (draft : Draft) : Option Command :=
  if draft.grammars.isEmpty || draft.source?.isSome then none
  else some (.check draft.grammars)

def kinds? (draft : Draft) : Option Command :=
  if draft.source?.isSome then none else some .kinds

end Draft

namespace Command

-- A command of which the name is read.
def ofArgs? (flags : List Flag) (finish : Draft → Option Command) (args : List String) :
    Option Command := do
  match ← Draft.empty.read (readArgs flags args) with
  | .inl draft => finish draft
  | .inr command => return command

def named? (name : String) (args : List String) : Option Command :=
  match name with
  | "tokenize" => ofArgs? tokenizeFlags Draft.tokenize? args
  | "check" => ofArgs? [helpFlag, verboseFlag, grammarFlag] Draft.check? args
  | "kinds" => ofArgs? [helpFlag, verboseFlag] Draft.kinds? args
  | "help" => match args with
    | [] => some .help
    | [topic] => if ["tokenize", "check", "kinds", "help"].contains topic then some .help else none
    | _ => none
  | _ => none

-- Flags in front of the name of a command. There has to be a name, unless a flag asks for help or
-- for the version.
def parse? : List String → Option Command
  | [] => none
  | arg :: args =>
      if arg = "-" ∨ arg = "--" then none
      else if isValue arg then named? arg args
      else
        let items := (readFirst [helpFlag, versionFlag, verboseFlag] arg args).1
        match items.find? (· != .flag "verbose") with
        | some (.flag "help") => some .help
        | some (.flag "version") => some .version
        | some _ => none
        | none => parse? args

end Command

end StackLexer.Cli
