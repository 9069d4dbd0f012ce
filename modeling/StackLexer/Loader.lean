import StackLexer.Document.Yaml.Assembly
import StackLexer.Loader.Entry
import StackLexer.Options

namespace StackLexer

namespace Loader

def readFlag (name : String) (node : Node) (flags : MatchFlags) : Reader MatchFlags := do
  let value ← readBool node
  match name with
  | "case_insensitive" => return { flags with caseInsensitive := value }
  | "multiline_anchors" => return { flags with multilineAnchors := value }
  | _ => return { flags with dotMatchesNewline := value }

def flagsShape : Shape MatchFlags where
  name := "MatchFlags"
  fields := ["case_insensitive", "multiline_anchors", "dot_matches_newline"]
  required := []
  mandatory := []
  read := readFlag

def readFlags (node : Node) : Reader MatchFlags := flagsShape.readNode .none node

-- The states of a grammar, set one after another. Of two states of one name the last one stays.
def readStates (node : Node) (grammar : Grammar) : Reader Grammar := do
  let add (name : String) (step : Step) (value : Node) (grammar : Grammar) : Reader Grammar :=
    return grammar.setState name (← (readList readEntry value).under step)
  match ← settled node with
  | .mapping _ entries => (readPairs readString add entries grammar).inside.located
  | node => if isLeftOut (← format) node then return grammar else mismatch "a map" node

def readGrammarField (name : String) (node : Node) (grammar : Grammar) : Reader Grammar := do
  match name with
  | "name" => return { grammar with name := ← readString node }
  | "aliases" => return { grammar with aliases := ← readList readString node }
  | "flags" => return { grammar with flags := ← readFlags node }
  | _ => readStates node grammar

def grammarShape : Shape Grammar where
  name := "Grammar"
  fields := ["name", "aliases", "flags", "states"]
  required := ["name", "states"]
  mandatory := ["name", "states"]
  read := readGrammarField

def readGrammar (node : Node) : Reader Grammar := grammarShape.readNode (.new "") node

def readOption (name : String) (node : Node) (options : Options) : Reader Options := do
  let value ← readCount node
  match name with
  | "max_empty_steps" => return { options with maxEmptySteps := value }
  | _ => return { options with maxDelegationDepth := value }

def optionsShape : Shape Options where
  name := "EngineOptions"
  fields := ["max_empty_steps", "max_delegation_depth"]
  required := []
  mandatory := []
  read := readOption

def readOptions (node : Node) : Reader Options := optionsShape.readNode .standard node

end Loader

namespace Format

def document? (format : Format) (text : Text) : Option Document :=
  match format with
  | .yaml => Yaml.document? text
  | .json => Json.document? text

def readText {α : Type} (format : Format) (reader : Node → Reader α) (text : Text) :
    Except ReadFault α :=
  match format.document? text with
  | some document => Reader.run reader document
  | none => .error ⟨.malformed, none⟩

def readGrammar (format : Format) (text : Text) : Except ReadFault Grammar :=
  format.readText Loader.readGrammar text

def readOptions (format : Format) (text : Text) : Except ReadFault Options :=
  format.readText Loader.readOptions text

def readKind (format : Format) (text : Text) : Except ReadFault Kind :=
  format.readText Loader.readKind text

def readTransition (format : Format) (text : Text) : Except ReadFault Transition :=
  format.readText Loader.readTransition text

end Format

end StackLexer
