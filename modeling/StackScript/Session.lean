import StackScript.Engine.Run

set_option autoImplicit false

namespace StackScript

namespace State

-- The room of the sink stays.
def hush (state : State) : State :=
  { state with
    sink := { state.sink with stored := [] }
    events := []
    journal := [] }

def output (state : State) : Text :=
  Text.ofCutBytes state.sink.received

end State

inductive Turn where
  | returned (result : Except Fault Answer) (state : State)
  | crashed (state : State)
  | endless

namespace Engine

def turn (engine : Engine) (action : Action) (state : State) : Turn :=
  match engine.act action state.hush with
  | .done answer after => .returned (.ok answer) after
  | .fault cause after => .returned (.error cause) after
  | .crash after => .crashed after
  | .endless => .endless

def session (engine : Engine) : State → List Action → List Turn
  | _, [] => []
  | state, action :: rest =>
    match engine.turn action state with
    | .returned result after => .returned result after :: engine.session after rest
    | .crashed after => [.crashed after]
    | .endless => [.endless]

end Engine

end StackScript
