import BoundQuery.CommandLine.Run

/-!
# The command line

Compiles a YAML document against a YAML catalog and prints the statement as JSON.
-/

namespace BoundQuery

/-- The environment values that settings come from. -/
def settingsVariables : List String :=
  [Settings.dialectVariable, "CRITERIA_SQL_COUNT_ALIAS", "CRITERIA_SQL_ALIAS_SEPARATOR",
    "CRITERIA_SQL_RESULT_ALIAS_PREFIX"]

/-- The content of a file, or why it cannot be read. -/
def readPath (path : String) : IO (Except String String) := do
  try
    return .ok (← IO.FS.readFile path)
  catch
    | .noFileOrDirectory .. => return .error FileFault.missing.message
    | .permissionDenied .. => return .error "Permission denied (os error 13)"
    | .inappropriateType _ 21 _ => return .error FileFault.isFolder.message
    | .inappropriateType .. => return .error FileFault.notFolder.message
    | .invalidArgument .. => return .error FileFault.nameTooLong.message
    | .userError _ => return .error "stream did not contain valid UTF-8"
    | e => return .error e.toString

/-- What the command can see, read beforehand. -/
def surroundings (a : Arguments) : IO Surroundings := do
  let values ← settingsVariables.mapM fun name => do return (name, ← IO.getEnv name)
  let files ← a.paths.mapM fun path => do return (path, ← readPath path)
  return {
    environment := fun name => (values.lookup name).join
    file := fun path => (files.lookup path).getD (.error FileFault.missing.message) }

end BoundQuery

/-- Run the command line: 2 for a wrong use, 1 for a failure. -/
def main (args : List String) : IO UInt32 := do
  match BoundQuery.Arguments.parse? args with
  | none =>
    IO.eprintln "usage: [options] select --catalog PATH --criteria PATH"
    IO.eprintln "       [options] refresh --catalog PATH --refresh PATH"
    return 2
  | some arguments =>
    match arguments.run (← BoundQuery.surroundings arguments) with
    | .error failure =>
      IO.eprintln failure.report
      return 1
    | .ok output =>
      IO.println output.pretty
      return 0
