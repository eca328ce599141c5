import StackScript.Session

set_option autoImplicit false

namespace StackScript.Console

inductive Ending where
  | misuse
  | crash
  | exit (code : Nat) (output : Text) (errors : List Text)
deriving DecidableEq, Repr

namespace Ending

def after (output : Text) (errors : List Text) : Ending → Ending
  | exit code later laterErrors => exit code (output ++ later) (errors ++ laterErrors)
  | misuse => misuse
  | crash => crash

end Ending

inductive Obstacle where
  | unreadableFile (path : Text)
  | invalidSettings (path : Text)
  | unreadableInput
deriving DecidableEq, Repr

namespace Obstacle

def message : Obstacle → Text
  | unreadableFile path => "Error: Failed to load ".toList ++ path.quoted
  | invalidSettings path => "Error: Invalid settings in ".toList ++ path.quoted
  | unreadableInput => "Error: Failed to read stdin".toList

def ending (obstacle : Obstacle) : Ending :=
  .exit 1 [] [obstacle.message]

end Obstacle

def report (fault : Fault) : Text :=
  "error ".toList ++ decimal fault.code ++ [':', ' '] ++ fault.message.toList

def stackLine (state : State) : Text :=
  listing state.stack.toList ++ ['\n']

end StackScript.Console
