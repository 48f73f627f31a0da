import EdgeCache.CommandLine

/-!
The program: it reads the files that the command line names and prints the answer.
-/

open EdgeCache CommandLine

def settings (file : Option String) : IO Config := do
  match file with
  | none => return .standard
  | some f => IO.ofExcept ((readConfig (← IO.FS.readFile f)).mapError IO.userError)

def answerTo (i : Invocation) : IO String := do
  let config ← settings i.config
  match i.command with
  | .serve program call =>
    IO.ofExcept ((serve (← IO.FS.readFile program) config call).mapError IO.userError)
  | .run program subroutine testing =>
    let config := { config with testing := testing || config.testing }
    IO.ofExcept ((run (← IO.FS.readFile program) config subroutine).mapError IO.userError)
  | .config => return config.toText

def main (args : List String) : IO UInt32 := do
  match readArguments args with
  | .error text =>
    IO.eprintln text
    return 2
  | .ok i =>
    IO.println (← answerTo i)
    return 0
