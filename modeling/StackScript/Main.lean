import StackScript.Console.Program

set_option autoImplicit false

open StackScript StackScript.Console

namespace StackScript.Main

def readFile? (path : Text) : IO (Option Bytes) := do
  try
    return some (← IO.FS.readBinFile (String.ofList path)).toList
  catch _ => return none

def readFiles (arguments : Arguments) : IO Files := do
  let paths := (arguments.config.map settingsPaths).getD [] ++
    (arguments.script.filter fun path => !isInput path).toList
  let contents ← paths.filterMapM fun path => do
    return (← readFile? path).map (path, ·)
  return fun path => contents.lookup path

partial def readAll (stream : IO.FS.Stream) (read : ByteArray) : IO ByteArray := do
  let chunk ← stream.read 65536
  if chunk.isEmpty then return read else readAll stream (read ++ chunk)

def write (output : Text) (errors : List Text) : IO Unit := do
  let stdout ← IO.getStdout
  stdout.putStr (String.ofList output)
  stdout.flush
  for error in errors do
    IO.eprintln (String.ofList error)

def finish : Ending → IO UInt32
  | .misuse => do
    IO.eprintln "error: unexpected arguments\n\nFor more information try '--help'"
    return 2
  | .crash => return 101
  | .exit code output errors => do
    write output errors
    return code.toUInt32

partial def converse (engine : Engine) (state : State) (input : IO.FS.Stream) : IO UInt32 := do
  let line? ← try pure (some (← input.getLine)) catch _ => pure none
  match line? with
  | none => finish Obstacle.unreadableInput.ending
  | some line =>
    if line.isEmpty then return 0
    else
      match respond engine state line.toList with
      | .ready after output errors =>
        write output errors
        converse engine after input
      | .last output errors =>
        write output errors
        return 0
      | .crash => finish .crash

end StackScript.Main

open StackScript.Main in
def main (arguments : List String) : IO UInt32 := do
  match Request.ofArguments? (arguments.map String.toList) with
  | none => finish .misuse
  | some request =>
    let (files, input) ← match request with
      | .run given => do
        let input ← if (given.script.map isInput).getD false then readAll (← IO.getStdin) .empty
          else pure .empty
        pure (← readFiles given, input.toList)
      | _ => pure ((fun _ => none), [])
    match Task.ofRequest files input request with
    | .converse engine state => StackScript.Main.converse engine state (← IO.getStdin)
    | task => finish (task.ending input)
