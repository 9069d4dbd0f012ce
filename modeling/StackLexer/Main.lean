import StackLexer.Cli

open StackLexer

-- The text of a file, or why it is not there.
def readFileText (path : String) : IO (Except FileFault Text) := do
  try
    return decodeFile (← IO.FS.readBinFile path)
  catch error =>
    return .error <| match error with
      | .permissionDenied _ _ _ => .denied
      | .inappropriateType _ code _ => if code = 20 then .notDirectory else .isDirectory
      | .invalidArgument _ code _ => if code = 36 then .longName else .missing
      | _ => .missing

def readStdinText : IO (Except FileFault Text) := do
  return decodeFile (← (← IO.getStdin).readBinToEnd)

def main (args : List String) : IO UInt32 := do
  let command? := Cli.Command.parse? args
  let paths := (command?.map Cli.Command.paths).getD []
  let texts ← paths.mapM fun path => return (path, ← readFileText path)
  let stdin ← if command?.any Cli.Command.readsStdin then readStdinText else pure (.ok [])
  let files : Files := fun path => (texts.lookup path).getD (.error .missing)
  let outcome := Cli.run ⟨files, stdin⟩ args
  IO.print outcome.stdout
  IO.eprint outcome.stderr
  return outcome.code.toUInt32
