import CoachScript.CommandLine

/-!
# The program

Reads the files that the arguments name and hands them to `CommandLine.run`.
-/

namespace CoachScript

/-- The fault that an error of the system stands for. -/
def faultOf : IO.Error → FileFault
  | .noFileOrDirectory .. => .missing
  | .inappropriateType _ 20 _ => .notDirectory
  | .inappropriateType .. => .isDirectory
  | .invalidArgument _ 36 _ => .nameTooLong
  | e => .unreadable (toString e)

/-- The text of the file at a path. -/
def readText (path : String) : IO (Except FileFault String) := do
  try
    return .ok (← IO.FS.readFile path)
  catch e =>
    return .error (faultOf e)

/-- What the paths that the arguments name lead to. -/
def readNamed (arguments : List String) : IO (List (String × Except FileFault String)) := do
  match Invocation.ofArguments arguments with
  | .error _ => return []
  | .ok i => [i.config, i.fixture].mapM fun path => return (path, ← readText path)

end CoachScript

open CoachScript in
/-- Runs the program. -/
def main (arguments : List String) : IO UInt32 := do
  let found ← readNamed arguments
  let ending := CommandLine.run (fun path => (found.lookup path).getD (.error .missing)) arguments
  (← IO.getStdout).putStr ending.output
  (← IO.getStderr).putStr ending.errors
  return ending.code.toUInt32
