/-
  FormLogic.Main

  The command line: reads the files that are asked for, prints what the run
  gives, and ends with its code.

  Specification, section 10 (command line).
-/

import FormLogic.CommandLine.Run
import FormLogic.Pattern.Parser

open FormLogic CommandLine

/-- Why a file cannot be read. -/
def readFailure : IO.Error → String
  | .noFileOrDirectory _ _ _ => "No such file or directory (os error 2)"
  | .permissionDenied _ _ _ => "Permission denied (os error 13)"
  | .inappropriateType _ code _ => typeFailure code
  | .userError _ => "stream did not contain valid UTF-8"
  | e => toString e
where
  /-- The failure for something that is no file, or no directory on the way to one. -/
  typeFailure (code : UInt32) : String :=
    if code = 21 then "Is a directory (os error 21)" else "Not a directory (os error 20)"

/-- The text of a file, or why there is none. -/
def readText (path : String) : IO (Except String String) := do
  match ← (IO.FS.readFile path).toBaseIO with
  | .ok text => return .ok text
  | .error e => return .error (readFailure e)

/-- The texts of files, by path. -/
def readTexts (paths : List String) : IO Reader := do
  let texts ← paths.mapM fun path => do return (path, ← readText path)
  return fun path => (texts.lookup path).getD (.error "not read")

def main (words : List String) : IO UInt32 := do
  let files := match readCommand words with
    | .ok command => command.files
    | .error _ => []
  let outcome := run (← readTexts files) words
  IO.print outcome.output
  if let some message := outcome.error then
    IO.eprintln (errorReport message)
  return UInt32.ofNat outcome.code
