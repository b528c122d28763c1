import SymbolIndex.CommandLine.Run
import SymbolIndex.Store.Snapshot

/-!
# The program

Reads the arguments and the files that they name, runs the command, and writes what it gives.
-/

open SymbolIndex SymbolIndex.CommandLine

/-- What is found under a path. -/
def readPath (path : String) : IO FileContent := do
  try
    let content ← IO.FS.readFile path
    return match Database.ofText? content with
      | some db => .database db
      | none => .text content
  catch
    | .noFileOrDirectory .. => return .missing
    | _ => return .binary

/-- The paths that an invocation reads. -/
def pathsOf (i : Invocation) : List String :=
  i.settings.toList ++ (match i.command with
    | .load file => [file]
    | _ => []) ++ [i.database]

/-- Whether a variable is set to anything but zero. -/
def isOn (name : String) : IO Bool := do
  return (← IO.getEnv name).any (· != "0")

def isColored : IO Bool := do
  if ← isOn "CLICOLOR_FORCE" then return true
  if (← IO.getEnv "NO_COLOR").isSome then return false
  (← IO.getStdout).isTty

def report (json colored : Bool) (f : Failure) : IO Unit := do
  if json then
    IO.eprintln (Json.object [("code", .text f.code), ("message", .text f.message)]).pretty
  else
    let label := if colored then "\x1b[31mError\x1b[0m" else "Error"
    IO.eprintln (label ++ ": " ++ f.message)

def main (arguments : List String) : IO UInt32 := do
  let standard : Defaults := {}
  let defaults : Defaults :=
    { database := (← IO.getEnv "SCRIPTDEX_DB").getD standard.database
      settings := ← IO.getEnv "SCRIPTDEX_CONFIG" }
  match Invocation.parse defaults arguments with
  | .error .help => IO.print Invocation.usage; return 0
  | .error .invalid => IO.eprint Invocation.usage; return 2
  | .ok i =>
    let found ← (pathsOf i).mapM fun path => do return (path, ← readPath path)
    let colored ← isColored
    let result := run (fun path => (found.lookup path).getD .missing) colored i
    let saved ← match result.database with
      | some db =>
        if i.database = memoryPath then pure true
        else try IO.FS.writeFile i.database db.toText; pure true catch _ => pure false
      | none => pure true
    match result.outcome, saved with
    | .ok output, true => IO.print output; return 0
    | .ok _, false => report i.json colored .database; return 1
    | .error f, _ => report i.json colored f; return 1
