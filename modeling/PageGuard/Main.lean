import PageGuard.Command.Program

/-!
# The program

Runs the command line on the files of the machine.
-/

open PageGuard.Command

/-- Why a file cannot be opened. -/
def reasonOf : IO.Error → String
  | .noFileOrDirectory .. => "No such file or directory (os error 2)"
  | .inappropriateType .. => "Is a directory (os error 21)"
  | .permissionDenied .. => "Permission denied (os error 13)"
  | e => toString e

instance : World IO where
  read path := do
    match ← (IO.FS.readFile path).toBaseIO with
    | .ok content => return .ok content
    | .error e => return .error (reasonOf e)
  write path content := do
    match ← (IO.FS.writeFile path content).toBaseIO with
    | .ok () => return .ok ()
    | .error e => return .error (reasonOf e)
  clock := return (← IO.monoNanosNow) / 1000

/-- Carries out the command line. -/
def main (arguments : List String) : IO UInt32 := do
  let ending ← (runArguments arguments : IO Ending)
  (← IO.getStdout).putStr ending.stdout
  (← IO.getStderr).putStr ending.stderr
  return ending.exitCode.toUInt32
