import StackScript.Engine.Run

set_option autoImplicit false

namespace StackScript

namespace Builtin

def inputs : Builtin → Nat
  | add | subtract | multiply | divide | remainder | swap | copySecond | dropSecond => 2
  | drop | duplicate | call | print => 1
  | rotate => 3
  | quote | halt => 0

def outputs : Builtin → Nat
  | add | subtract | multiply | divide | remainder | quote | dropSecond => 1
  | duplicate | swap => 2
  | copySecond | rotate => 3
  | drop | call | print | halt => 0

-- The cells that take the place of the inputs, the top first. Quoting and calling have rules of
-- their own.
def effect : Builtin → List Int32 → List Int32
  | add, [right, left] => [left + right]
  | subtract, [right, left] => [left - right]
  | multiply, [right, left] => [left * right]
  | divide, [right, left] => [left / right]
  | remainder, [right, left] => [left % right]
  | duplicate, [top] => [top, top]
  | swap, [top, second] => [second, top]
  | copySecond, [top, second] => [second, top, second]
  | dropSecond, [top, _] => [top]
  | rotate, [top, second, third] => [third, top, second]
  | _, _ => []

def printed : Builtin → List Int32 → Text
  | print, [cell] => decimal cell.toInt ++ ['\n']
  | _, _ => []

def refuses : Builtin → List Int32 → Bool
  | divide, right :: _ | remainder, right :: _ => right == 0
  | _, _ => false

theorem effect_length {builtin : Builtin} {cells : List Int32}
    (taken : cells.length = builtin.inputs) (ordinary : builtin ≠ .quote) :
    (builtin.effect cells).length = builtin.outputs := by
  rcases cells with _ | ⟨top, _ | ⟨second, _ | ⟨third, _ | ⟨fourth, deeper⟩⟩⟩⟩ <;>
    cases builtin <;> simp_all [inputs, outputs, effect]

end Builtin

-- The built-in word that this is, where it declares what that word takes and leaves.
def Word.declared? (word : Word) : Option Builtin :=
  match word.operation with
  | .builtin builtin =>
    if word.inputs = builtin.inputs ∧ word.outputs = builtin.outputs then some builtin else none
  | .program _ => none

theorem Word.spec_of_declared? {word : Word} {builtin : Builtin}
    (declared : word.declared? = some builtin) :
    word.operation = .builtin builtin ∧ word.inputs = builtin.inputs ∧
      word.outputs = builtin.outputs := by
  unfold Word.declared? at declared
  split at declared
  · next found same =>
    split at declared
    · next arity =>
      cases declared
      exact ⟨same, arity⟩
    · cases declared
  · cases declared

theorem Dictionary.declared?_standard {name : Text} {word : Word}
    (found : Dictionary.standard.find? name = some word) : word.declared?.isSome = true := by
  have declared : Dictionary.standard.words.all (fun word => word.declared?.isSome) = true := by
    decide
  exact List.all_eq_true.1 declared word (List.mem_of_find?_eq_some found)

namespace Stack

variable {stack after : Stack} {cell : Int32}

theorem push_fits (pushed : stack.push cell = .ok after) : after.depth ≤ after.capacity := by
  unfold push at pushed
  split at pushed
  · next room =>
    cases pushed
    exact room
  · cases pushed

theorem pop_fits (fits : stack.depth ≤ stack.capacity) (popped : stack.pop = .ok (cell, after)) :
    after.depth ≤ after.capacity := by
  unfold pop at popped
  split at popped
  · cases popped
  · next cells =>
    cases popped
    simp only [depth, cells, List.length_cons] at fits ⊢
    omega

end Stack

section Steps

variable {α β : Type} (state : State)

@[simp] theorem Outcome.bind_done (value : α) (next : α → Step β) :
    (Outcome.done value state).bind next = next value state := rfl

@[simp] theorem Outcome.bind_fault (cause : Fault) (next : α → Step β) :
    (Outcome.fault cause state : Outcome α).bind next = .fault cause state := rfl

namespace Step

@[simp] theorem get_apply : Step.get state = .done state state := rfl

@[simp] theorem modify_apply (change : State → State) :
    Step.modify change state = .done () (change state) := rfl

@[simp] theorem orCrash_some (value : α) :
    Step.orCrash (some value) state = .done value state := rfl

theorem push_apply (cell : Int32) :
    Step.push cell state = match state.stack.push cell with
      | .ok stack => .done () { state with stack := stack }
      | .error cause => .fault cause state := by
  rw [Step.push, bind_apply, get_apply, Outcome.bind_done]
  cases state.stack.push cell <;> rfl

theorem pop_apply :
    Step.pop state = match state.stack.pop with
      | .ok (cell, stack) => .done cell { state with stack := stack }
      | .error cause => .fault cause state := by
  rw [Step.pop, bind_apply, get_apply, Outcome.bind_done]
  rcases state.stack.pop with _ | ⟨_, _⟩ <;> rfl

theorem write_apply (text : Text) :
    Step.write text state = match state.sink.write text.toBytes with
      | (.ok (), sink) => .done () { state with sink := sink }
      | (.error (), sink) => .fault .outputFailed { state with sink := sink } := by
  rw [Step.write, bind_apply, get_apply, Outcome.bind_done]
  rcases state.sink.write text.toBytes with ⟨_ | _, _⟩ <;> rfl

end Step

end Steps

theorem Sink.write_nil (sink : Sink) : sink.write [] = (.ok (), sink) := by
  obtain ⟨room, stored⟩ := sink
  cases room <;> simp [write]

open Step

variable {state : State} {read : Span → Step Unit} {cells taken deeper : List Int32}

def State.withCells (state : State) (cells : List Int32) : State :=
  { state with stack := { state.stack with cells := cells } }

theorem Stack.cells_of_toList {stack : Stack} (cells : stack.toList = deeper ++ taken) :
    stack.cells = taken.reverse ++ deeper.reverse := by
  simpa [toList] using congrArg List.reverse cells

theorem State.withCells_of_toList (cells : state.stack.toList = deeper ++ taken) :
    state.withCells (taken.reverse ++ deeper.reverse) = state := by
  rw [← Stack.cells_of_toList cells]
  rfl

namespace Step

theorem pop_withCells (state : State) (cell : Int32) (deeper : List Int32) :
    pop (state.withCells (cell :: deeper)) = .done cell (state.withCells deeper) := rfl

theorem peek_top (state : State) (cell : Int32) (deeper : List Int32) :
    peek 0 (state.withCells (cell :: deeper)) =
      .done cell (state.withCells (cell :: deeper)) := rfl

theorem peek_second (state : State) (top cell : Int32) (deeper : List Int32) :
    peek 1 (state.withCells (top :: cell :: deeper)) =
      .done cell (state.withCells (top :: cell :: deeper)) := rfl

theorem push_withCells (room : cells.length < state.stack.capacity) (cell : Int32) :
    push cell (state.withCells cells) = .done () (state.withCells (cell :: cells)) := by
  have fits : (state.withCells cells).stack.depth < (state.withCells cells).stack.capacity := room
  rw [push_apply, Stack.push, if_pos fits]
  rfl

end Step

namespace Builtin

theorem binary_withCells (operation : Int32 → Int32 → Int32) {right left : Int32}
    (room : deeper.length < state.stack.capacity) :
    binary operation (state.withCells (right :: left :: deeper)) =
      .done () (state.withCells (operation left right :: deeper)) := by
  simp [binary, pop_withCells, push_withCells room, Outcome.bind]

theorem nonzeroDivisor_withCells (top : Int32) (deeper : List Int32) (state : State) :
    nonzeroDivisor (state.withCells (top :: deeper)) =
      if top = 0 then .fault .divisionByZero (state.withCells (top :: deeper))
      else .done () (state.withCells (top :: deeper)) := by
  rw [nonzeroDivisor, bind_apply, peek_top]
  dsimp only [Outcome.bind]
  split <;> rfl

theorem invoke_plain {builtin : Builtin}
    (special : builtin ∉ [.quote, .call, .print, .halt]) (inputs : taken.length = builtin.inputs)
    (before : builtin.inputs + deeper.length ≤ state.stack.capacity)
    (after : builtin.outputs + deeper.length ≤ state.stack.capacity) :
    builtin.invoke read (state.withCells (taken ++ deeper)) =
      if builtin.refuses taken then .fault .divisionByZero (state.withCells (taken ++ deeper))
      else .done () (state.withCells (builtin.effect taken ++ deeper)) := by
  rcases taken with _ | ⟨top, _ | ⟨second, _ | ⟨third, _ | ⟨fourth, taken⟩⟩⟩⟩ <;> cases builtin <;>
    simp [Builtin.inputs] at inputs special <;>
    simp only [Builtin.inputs, Builtin.outputs] at before after
  case cons.cons.nil.divide | cons.cons.nil.remainder =>
    simp only [Builtin.invoke, bind_apply, List.cons_append, nonzeroDivisor_withCells]
    by_cases zero : top = 0
    · simp [zero, refuses, Outcome.bind]
    · have room : deeper.length < state.stack.capacity := by omega
      simp [zero, refuses, effect, Outcome.bind, binary_withCells _ room]
  all_goals
    simp (disch := first | rfl | (simp only [List.length_cons]; omega) | omega)
      [Builtin.invoke, binary_withCells, pop_withCells, push_withCells, peek_top, peek_second,
      refuses, effect, Outcome.bind]

theorem invoke_withCells (state : State) (read : Span → Step Unit) (deeper : List Int32)
    {builtin : Builtin} (quote : builtin ≠ .quote) (call : builtin ≠ .call)
    (inputs : taken.length = builtin.inputs)
    (before : builtin.inputs + deeper.length ≤ state.stack.capacity)
    (after : builtin.outputs + deeper.length ≤ state.stack.capacity) :
    builtin.invoke read (state.withCells (taken ++ deeper)) =
      if builtin.refuses taken then .fault .divisionByZero (state.withCells (taken ++ deeper))
      else
        let worked := fun sink =>
          { state.withCells (builtin.effect taken ++ deeper) with
            sink := sink
            halted := state.halted || builtin == .halt }
        match state.sink.write (builtin.printed taken).toBytes with
        | (.ok (), sink) => .done () (worked sink)
        | (.error (), sink) => .fault .outputFailed (worked sink) := by
  by_cases special : builtin ∈ [.quote, .call, .print, .halt]
  · have ends : builtin = .print ∨ builtin = .halt := by
      simpa [quote, call] using special
    rcases ends with rfl | rfl
    · obtain ⟨cell, rfl⟩ := List.length_eq_one_iff.1 inputs
      simp only [Builtin.invoke, bind_apply, List.cons_append, pop_withCells, Outcome.bind,
        write_apply, refuses, printed, effect, List.nil_append]
      have running : (state.halted || print == .halt) = state.halted := by
        cases state.halted <;> rfl
      rw [running]
      rfl
    · rw [List.length_eq_zero_iff.1 inputs]
      simp only [refuses, printed, effect, Text.toBytes, List.flatMap_nil, Sink.write_nil]
      have stopped : (state.halted || halt == .halt) = true := by
        cases state.halted <;> rfl
      rw [stopped]
      rfl
  · have silent : builtin.printed taken = [] := by
      cases builtin <;> simp_all [printed]
    have running : (state.halted || builtin == .halt) = state.halted := by
      cases builtin <;> simp_all
    rw [invoke_plain special inputs before after, silent, running]
    simp only [Text.toBytes, List.flatMap_nil, Sink.write_nil]
    rfl

theorem length_taken {builtin : Builtin} (inputs : builtin.inputs ≤ state.stack.depth) :
    (state.stack.cells.take builtin.inputs).length = builtin.inputs := by
  rw [List.length_take]
  exact Nat.min_eq_left inputs

theorem invoke_apply (state : State) (read : Span → Step Unit) {builtin : Builtin}
    (quote : builtin ≠ .quote) (call : builtin ≠ .call)
    (depth : state.stack.depth ≤ state.stack.capacity)
    (inputs : builtin.inputs ≤ state.stack.depth)
    (room : builtin.outputs - builtin.inputs ≤ state.stack.room) :
    builtin.invoke read state =
      let taken := state.stack.cells.take builtin.inputs
      if builtin.refuses taken then .fault .divisionByZero state
      else
        let worked := fun sink =>
          { state.withCells (builtin.effect taken ++ state.stack.cells.drop builtin.inputs) with
            sink := sink
            halted := state.halted || builtin == .halt }
        match state.sink.write (builtin.printed taken).toBytes with
        | (.ok (), sink) => .done () (worked sink)
        | (.error (), sink) => .fault .outputFailed (worked sink) := by
  have whole : state.withCells
      (state.stack.cells.take builtin.inputs ++ state.stack.cells.drop builtin.inputs) = state := by
    rw [List.take_append_drop]
    rfl
  have deeper : (state.stack.cells.drop builtin.inputs).length =
      state.stack.cells.length - builtin.inputs := List.length_drop
  have taken := length_taken inputs
  simp only [Stack.depth, Stack.room] at depth inputs room
  have works := invoke_withCells state read (state.stack.cells.drop builtin.inputs) quote call taken
    (by omega) (by omega)
  rwa [whole] at works

end Builtin

end StackScript
