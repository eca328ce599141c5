import StackScript.Fault
import StackScript.Span

set_option autoImplicit false

namespace StackScript

/-- A request of a host. An operand that is left out is the accumulator. -/
inductive Action where
  | run (script : Text)
  | runSpan (span : Span)
  | runQuotation (handle : Option Int)
  | push (cell : Option Int)
  | pop
  | peek (below : Option Int)
  | depth
  | stack
  | cursor
  | setCursor (position : Option Int)
  | frameRest
  | source
  | slice (span : Span)
  | quotationText (handle : Option Int)
  | quotationSpan (handle : Option Int)
  | capture (body : Span)
  | countQuotations
  | clearQuotations
  | write (text : Text)
  | halt
  | isHalted
  | reset
  | find (name : Text)
  | settings
  | add (amount : Int)
  | give (result : Except Fault Unit)

structure Signature where
  name : Text
  inputs : Nat
  outputs : Nat

inductive Reply (word : Type) where
  | nothing
  | flag (value : Bool)
  | number (value : Int)
  | numbers (values : List Int)
  | text (value : Text)
  | word (value : word)

def Reply.map {first second : Type} (change : first → second) : Reply first → Reply second
  | nothing => nothing
  | flag value => flag value
  | number value => number value
  | numbers values => numbers values
  | text value => text value
  | word value => word (change value)

/-- What a word does on its own. It asks for one action after the other, and what it does next can
depend on all that it was told. -/
inductive Program where
  | finish (result : Except Fault Unit)
  | ask (accumulator : Int) (action : Action)
    (next : Except Fault (Reply Signature × Int) → Program)

inductive Instruction where
  -- A tolerant action that fails puts the code of the fault into the accumulator.
  | act (action : Action) (tolerant : Bool)
  | skipIfZero (count : Nat)

-- The instructions in order, from the accumulator on, `skip` of them left out.
def Program.ofInstructions : (skip : Nat) → (accumulator : Int) → List Instruction → Program
  | _, _, [] => .finish (.ok ())
  | skip + 1, accumulator, _ :: rest => ofInstructions skip accumulator rest
  | 0, accumulator, .skipIfZero count :: rest =>
    ofInstructions (if accumulator = 0 then count else 0) accumulator rest
  | 0, accumulator, .act action tolerant :: rest =>
    .ask accumulator action fun
      | .ok (_, accumulator) => ofInstructions 0 accumulator rest
      | .error cause =>
        if tolerant then ofInstructions 0 cause.code rest else .finish (.error cause)

end StackScript
