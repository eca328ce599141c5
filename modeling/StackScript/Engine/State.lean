import StackScript.Arena
import StackScript.Dictionary
import StackScript.Quotations
import StackScript.Settings
import StackScript.Stack
import StackScript.Text.Utf8

set_option autoImplicit false

namespace StackScript

structure Engine where
  dictionary : Dictionary
  settings : Settings

structure Frame where
  start : Nat
  cursor : Nat
  stop : Nat
deriving DecidableEq, Repr

namespace Frame

def idle : Frame := { start := 0, cursor := 0, stop := 0 }

def ofSpan (span : Span) : Frame :=
  { start := span.start, cursor := span.start, stop := span.stop }

def unread (frame : Frame) : Nat :=
  frame.stop - frame.cursor

end Frame

/-- Takes bytes until `room` of them came. The last one is stored first. -/
structure Sink where
  room : Option Nat
  stored : Bytes
deriving DecidableEq, Repr

namespace Sink

def unlimited : Sink := { room := none, stored := [] }

def limited (room : Nat) : Sink := { room := some room, stored := [] }

def received (sink : Sink) : Bytes :=
  sink.stored.reverse

-- What fits is taken, even of a write that fails.
def write (sink : Sink) (bytes : Bytes) : Except Unit Unit × Sink :=
  match sink.room with
  | none => (.ok (), { sink with stored := bytes.reverse ++ sink.stored })
  | some room =>
    let taken := bytes.take room
    (if bytes.length ≤ room then .ok () else .error (),
      { room := some (room - taken.length), stored := taken.reverse ++ sink.stored })

@[simp] theorem received_write (sink : Sink) (bytes : Bytes) :
    (sink.write bytes).2.received =
      sink.received ++ bytes.take (sink.room.getD bytes.length) := by
  cases h : sink.room <;> simp [write, received, h]

end Sink

inductive Level where
  | trace
  | debug
  | warn
deriving DecidableEq, Repr

inductive Event where
  | running (bytes : Nat)
  | pushing (cell : Int32)
  | invoking (name : Text) (stack : Stack)
  | captured (handle : Int32) (body : Text)
  | calling (handle : Int32)
  | missing (handle : Int32)
  | resetDeferred
deriving DecidableEq, Repr

namespace Event

def level : Event → Level
  | running _ | captured _ _ | calling _ | resetDeferred => .debug
  | pushing _ | invoking _ _ => .trace
  | missing _ => .warn

def message : Event → String
  | running bytes => "run: " ++ String.ofList (decimal bytes) ++ " bytes"
  | pushing cell => "push " ++ String.ofList (decimal cell.toInt)
  | invoking name stack => String.ofList (name ++ ' ' :: listing stack.toList)
  | captured handle body =>
    "quote #" ++ String.ofList (decimal handle.toInt) ++ ": " ++ String.ofList body.quoted
  | calling handle => "do #" ++ String.ofList (decimal handle.toInt)
  | missing handle =>
    "do: no quotation #" ++ String.ofList (decimal handle.toInt) ++ ", ignoring"
  | resetDeferred => "reset deferred to end of run"

end Event

abbrev Answer := Reply Word

structure Entry where
  action : Action
  result : Except Fault Answer

structure State where
  stack : Stack
  arena : Arena
  quotations : Quotations
  frame : Frame
  nesting : Nat
  halted : Bool
  resetPending : Bool
  sink : Sink
  -- The last event first.
  events : List Event
  -- The last entry first.
  journal : List Entry

namespace State

def note (state : State) (event : Event) : State :=
  { state with events := event :: state.events }

def frameRest? (state : State) : Option Text :=
  state.arena.text.slice? state.frame.cursor state.frame.stop

def clear (state : State) : State :=
  { state with
    stack := state.stack.clear
    arena := .empty
    quotations := .empty
    frame := .idle
    halted := false
    resetPending := false }

def openFrame (state : State) (span : Span) : State :=
  { state with frame := .ofSpan span, nesting := state.nesting + 1 }

-- A reset that waited happens when no frame is left.
def closeFrame (state : State) (caller : Frame) : State :=
  let closed := { state with frame := caller, nesting := state.nesting - 1 }
  if closed.nesting = 0 ∧ closed.resetPending then closed.clear else closed

end State

def Engine.start? (engine : Engine) (sink : Sink) : Option State :=
  (Stack.empty? engine.settings.stackCapacity).map fun stack =>
    { stack := stack
      arena := .empty
      quotations := .empty
      frame := .idle
      nesting := 0
      halted := false
      resetPending := false
      sink := sink
      events := []
      journal := [] }

end StackScript
