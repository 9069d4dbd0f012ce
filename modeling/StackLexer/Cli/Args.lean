import StackLexer.Text

namespace StackLexer.Cli

-- A flag is written by its letter or its name. Letters may share one dash, and the last of them may
-- have its value right behind it.
structure Flag where
  letter : Char
  name : String
  takesValue : Bool
deriving DecidableEq, Repr

-- Each flag goes by its name. Nothing after `unknown` is read.
inductive Arg where
  | flag (name : String)
  | value (name value : String)
  | free (value : String)
  | unknown
deriving DecidableEq, Repr

-- An argument that can be the value of a flag in front of it. A value never begins with a dash,
-- unless it is a dash alone, is attached to its flag, or stands behind a double dash.
def isValue (arg : String) : Bool := arg == "-" || arg.toList.head? != some '-'

-- The value for a flag: what is attached to it, or the next argument.
def valueFor (flag : Flag) (attached : Option Text) (args : List String) :
    Arg × List String :=
  match attached, args with
  | some text, _ => (.value flag.name (String.ofList text), args)
  | none, arg :: rest => if isValue arg then (.value flag.name arg, rest) else (.unknown, [])
  | none, [] => (.unknown, [])

-- Letters behind a single dash.
def readLetters (flags : List Flag) (args : List String) : Text → List Arg × List String
  | [] => ([], args)
  | c :: rest => match flags.find? (·.letter == c) with
    | none => ([.unknown], [])
    | some flag =>
        if flag.takesValue then
          let attached := match rest with
            | [] => none
            | '=' :: text => some text
            | text => some text
          let (arg, left) := valueFor flag attached args
          ([arg], left)
        else
          let (more, left) := readLetters flags args rest
          (.flag flag.name :: more, left)

-- A name behind two dashes. What follows an equals sign is the value.
def readName (flags : List Flag) (args : List String) (text : Text) : Arg × List String :=
  let name := String.ofList (text.takeWhile (· != '='))
  let attached := match text.dropWhile (· != '=') with
    | [] => none
    | _ :: value => some value
  match flags.find? (·.name == name) with
  | none => (.unknown, [])
  | some flag =>
      if flag.takesValue then valueFor flag attached args
      else if attached.isSome then (.unknown, [])
      else (.flag flag.name, args)

-- The first argument, which gives one item or more, and the arguments left.
def readFirst (flags : List Flag) (arg : String) (args : List String) : List Arg × List String :=
  match arg.toList with
  | '-' :: '-' :: [] => (args.map .free, [])
  | '-' :: '-' :: text =>
      let (item, left) := readName flags args text
      ([item], left)
  | '-' :: c :: text => readLetters flags args (c :: text)
  | _ => ([.free arg], args)

def readFrom (flags : List Flag) : (fuel : Nat) → List String → List Arg
  | 0, _ => []
  | _ + 1, [] => []
  | fuel + 1, arg :: args =>
      let (items, left) := readFirst flags arg args
      items ++ readFrom flags fuel left

def readArgs (flags : List Flag) (args : List String) : List Arg := readFrom flags args.length args

end StackLexer.Cli
