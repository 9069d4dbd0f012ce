import StackLexer.Loader

namespace StackLexer

namespace Format

-- The last component of a path. Empty components and single dots count for nothing, except for a
-- dot that comes first.
def lastComponent? (path : Text) : Option Text :=
  let components := match Text.splitOn '/' path with
    | [] => []
    | first :: rest => (first :: rest.filter (· ≠ ['.'])).filter (· ≠ [])
  components.getLast?.bind fun name => if name = ['.'] ∨ name = ['.', '.'] then none else some name

-- What follows the last dot, unless that dot begins the name.
def fileExtension? (name : Text) : Option Text :=
  match Text.splitOn '.' name with
  | [] | [_] | [[], _] => none
  | pieces => pieces.getLast?

-- A file is YAML unless it says that it is JSON. YAML is for files of any other name, too.
def ofPath (path : String) : Format :=
  match (lastComponent? path.toList).bind fileExtension? with
  | some extension => if extension.map Char.toLower = "json".toList then .json else .yaml
  | none => .yaml

end Format

-- Why the text of a file is not there.
inductive FileFault where
  | missing
  | denied
  | notDirectory
  | isDirectory
  | longName
  | unusableName
  | notText
deriving DecidableEq, Repr

def FileFault.message : FileFault → String
  | .missing => "No such file or directory (os error 2)"
  | .denied => "Permission denied (os error 13)"
  | .notDirectory => "Not a directory (os error 20)"
  | .isDirectory => "Is a directory (os error 21)"
  | .longName => "File name too long (os error 36)"
  | .unusableName => "file name contained an unexpected NUL byte"
  | .notText => "stream did not contain valid UTF-8"

-- What the files hold. Nothing here touches a disk.
abbrev Files := String → Except FileFault Text

def decodeFile (bytes : ByteArray) : Except FileFault Text :=
  match String.fromUTF8? bytes with
  | some text => .ok text.toList
  | none => .error .notText

inductive LoadError where
  | file (path : String) (fault : FileFault)
  | content (path : String) (format : Format) (fault : ReadFault)
deriving DecidableEq, Repr

-- Only for YAML is the place in the document told.
def LoadError.message : LoadError → String
  | .file path fault => s!"cannot read {path}: {fault.message}"
  | .content path format fault =>
      let text := fault.error.message?.getD "the text is malformed"
      match format with
      | .yaml => s!"{path}: " ++ fault.lead ++ text
      | .json => s!"{path}: " ++ text

namespace Files

def loadAs {α : Type} (files : Files) (format : Format)
    (read : Format → Text → Except ReadFault α) (path : String) : Except LoadError α := do
  match files path with
  | .error fault => .error (.file path fault)
  | .ok text => match read format text with
    | .ok value => return value
    | .error fault => .error (.content path format fault)

def loadGrammar (files : Files) (path : String) : Except LoadError Grammar :=
  files.loadAs (.ofPath path) Format.readGrammar path

-- The first file that cannot be loaded decides the error.
def loadGrammars (files : Files) (paths : List String) : Except LoadError (List Grammar) :=
  paths.mapM files.loadGrammar

-- Options are always YAML.
def loadOptions (files : Files) (path : String) : Except LoadError Options :=
  files.loadAs .yaml Format.readOptions path

end Files

end StackLexer
