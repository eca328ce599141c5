import StackScript.Engine.State

set_option autoImplicit false

namespace StackScript

inductive Outcome (α : Type) where
  | done (value : α) (state : State)
  | fault (cause : Fault) (state : State)
  | crash (state : State)
  | endless

namespace Outcome

variable {α β : Type}

def bind (outcome : Outcome α) (next : α → State → Outcome β) : Outcome β :=
  match outcome with
  | done value state => next value state
  | fault cause state => fault cause state
  | crash state => crash state
  | endless => endless

def mapReturn (change : State → State) : Outcome α → Outcome α
  | done value state => done value (change state)
  | fault cause state => fault cause (change state)
  | crash state => crash state
  | endless => endless

end Outcome

def Step (α : Type) : Type := State → Outcome α

inductive Due (α : Type) where
  | now (value : α)
  | reading (span : Span) (value : α)

namespace Step

variable {α β : Type}

instance : Monad Step where
  pure value := fun state => .done value state
  bind step next := fun state => (step state).bind next

@[simp] theorem pure_apply (value : α) (state : State) :
    (pure value : Step α) state = .done value state := rfl

@[simp] theorem bind_apply (step : Step α) (next : α → Step β) (state : State) :
    (step >>= next) state = (step state).bind next := rfl

def get : Step State :=
  fun state => .done state state

def modify (change : State → State) : Step Unit :=
  fun state => .done () (change state)

def fail (cause : Fault) : Step α :=
  fun state => .fault cause state

def crash : Step α :=
  fun state => .crash state

def attempt (step : Step α) : Step (Except Fault α) := fun state =>
  match step state with
  | .done value after => .done (.ok value) after
  | .fault cause after => .done (.error cause) after
  | .crash after => .crash after
  | .endless => .endless

def orCrash : Option α → Step α
  | some value => pure value
  | none => crash

def ofResult : Except Fault α → Step α
  | .ok value => pure value
  | .error cause => fail cause

end Step

def Due.settle {α : Type} (read : Span → Step Unit) : Due α → Step α
  | now value => return value
  | reading span value => do
    read span
    return value

end StackScript
