import StackScript.Engine.Outcome

set_option autoImplicit false

namespace StackScript.Step

def note (event : Event) : Step Unit :=
  modify (·.note event)

def push (cell : Int32) : Step Unit := do
  let stack ← ofResult ((← get).stack.push cell)
  modify fun state => { state with stack := stack }

def pop : Step Int32 := do
  let (cell, stack) ← ofResult ((← get).stack.pop)
  modify fun state => { state with stack := stack }
  return cell

def peek (below : Nat) : Step Int32 := do
  ofResult ((← get).stack.peek below)

def cursor : Step Nat :=
  return (← get).frame.cursor

def isHalted : Step Bool :=
  return (← get).halted

def halt : Step Unit :=
  modify fun state => { state with halted := true }

/-- While a frame is open the reset waits for the last one to be closed, and the run is halted. -/
def reset : Step Unit := do
  if (← get).nesting = 0 then modify State.clear
  else
    note .resetDeferred
    modify fun state => { state with resetPending := true }
    halt

/-- Moves within the frame: positions outside are moved to its ends, and a position inside a
character to the next one. -/
def setCursor (position : Nat) : Step Unit := do
  let state ← get
  if state.frame.start ≤ state.frame.stop then
    let wanted := min (max position state.frame.start) state.frame.stop
    let cursor ← orCrash (Text.boundaryFrom? wanted state.arena.text)
    modify fun state => { state with frame := { state.frame with cursor := cursor } }
  else crash

def frameRest : Step Text := do
  orCrash (← get).frameRest?

def slice (span : Span) : Step Text := do
  orCrash ((← get).arena.slice? span)

def append (script : Text) : Step Span := do
  let (span, arena) := (← get).arena.append script
  modify fun state => { state with arena := arena }
  return span

def capture (body : Span) : Step Int32 := do
  let (handle, quotations) := (← get).quotations.capture body
  modify fun state => { state with quotations := quotations }
  return handle

def quotation? (handle : Int32) : Step (Option Span) :=
  return (← get).quotations.get? handle

def write (text : Text) : Step Unit := do
  let (result, sink) := (← get).sink.write text.toBytes
  modify fun state => { state with sink := sink }
  match result with
  | .ok () => return ()
  | .error () => fail .outputFailed

def load (script : Text) : Step Span := do
  modify fun state => { state with halted := false }
  let span ← append script
  note (.running span.length)
  return span

def run (read : Span → Step Unit) (script : Text) : Step Unit := do
  read (← load script)

end StackScript.Step
