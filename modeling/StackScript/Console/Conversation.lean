import StackScript.Console.Ending

set_option autoImplicit false

namespace StackScript.Console

def linesOf (input : Bytes) : List Bytes :=
  let lines := input.splitOn 10
  let ended := if lines.getLast? == some [] then lines.dropLast else lines
  ended.map fun line => if line.getLast? == some 13 then line.dropLast else line

def isFarewell (line : Text) : Bool :=
  ["quit", "q", "exit"].any (·.toList == line)

inductive Reply where
  | ready (state : State) (output : Text) (errors : List Text)
  | last (output : Text) (errors : List Text)
  | crash

namespace Reply

def afterRun (after : State) (errors : List Text) : Reply :=
  let output := after.output ++ "=> ".toList ++ stackLine after
  if after.halted then last output errors else ready after output errors

end Reply

def respond (engine : Engine) (state : State) (line : Text) : Reply :=
  let script := line.trim
  if isFarewell script then .last "Bye!\n".toList []
  else
    match engine.run script state.hush with
    | .done () after => .afterRun after []
    | .fault cause after => .afterRun after [report cause]
    | .crash _ | .endless => .crash

def converse (engine : Engine) (state : State) : List Bytes → Ending
  | [] => .exit 0 [] []
  | bytes :: rest =>
    match Text.ofBytes? bytes with
    | none => Obstacle.unreadableInput.ending
    | some line =>
      match respond engine state line with
      | .ready after output errors => (converse engine after rest).after output errors
      | .last output errors => .exit 0 output errors
      | .crash => .crash

end StackScript.Console
