import StackScript.Proofs.Poise

set_option autoImplicit false

namespace StackScript

open Step

structure Stack.Stable (kept : Stack → Prop) : Prop where
  push : ∀ {stack after : Stack} {cell : Int32}, kept stack → stack.push cell = .ok after →
    kept after
  pop : ∀ {stack after : Stack} {cell : Int32}, kept stack → stack.pop = .ok (cell, after) →
    kept after
  clear : ∀ {stack : Stack}, kept stack → kept stack.clear

theorem Stack.stable_fits : Stack.Stable fun stack => stack.depth ≤ stack.capacity where
  push _ pushed := push_fits pushed
  pop fits popped := pop_fits fits popped
  clear _ := Nat.zero_le _

theorem Stack.stable_clear (cleared : Option Stack) :
    Stack.Stable fun stack => cleared = some stack.clear where
  push same pushed := by rw [same, clear, clear, capacity_push pushed]
  pop same popped := by rw [same, clear, clear, capacity_pop popped]
  clear same := same

theorem Stack.clear_of_empty? {capacity : Nat} {stack : Stack}
    (made : Stack.empty? capacity = some stack) : stack.clear = stack := by
  unfold empty? at made
  split at made
  · cases made
    rfl
  · cases made

def State.Holding (kept : Stack → Prop) (state : State) : Prop :=
  kept state.stack

section Stable

variable {kept : Stack → Prop} {engine : Engine} {asks : Action → Prop} {state : State}
  {moment later : Moment}

theorem Stack.Stable.movable (stable : Stack.Stable kept) : Movable (State.Holding kept) where
  push cell state holds := by
    rw [push_apply]
    cases pushed : state.stack.push cell with
    | ok stack => exact stable.push holds pushed
    | error cause => exact holds
  pop state holds := by
    rw [pop_apply]
    cases popped : state.stack.pop with
    | ok result => exact stable.pop holds popped
    | error cause => exact holds
  write text state holds := by
    rw [write_apply]
    rcases state.sink.write text.toBytes with ⟨_ | _, sink⟩ <;> exact holds
  note _ _ holds := holds
  moved _ _ holds := holds
  capture _ _ holds := holds

@[simp] theorem Asker.stack_hear (asker : Asker) (action : Action)
    (result : Except Fault (Answer × Int)) (callers : List Caller) (state : State) :
    (asker.hear action result callers state).state.stack = state.stack := by
  cases asker <;> rfl

@[simp] theorem Waiting.stack_resume (waiting : Waiting) (result : Except Fault Unit)
    (callers : List Caller) (state : State) :
    (waiting.resume result callers state).state.stack = state.stack := by
  cases waiting <;> simp [resume]

namespace Engine

theorem prepare_holding (engine : Engine) (stable : Stack.Stable kept) (accumulator : Int)
    (action : Action) :
    (engine.prepare accumulator action).Keeps (State.Holding kept) := by
  cases steers : action.steers with
  | false => exact engine.prepare_keeps stable.movable.toWorkable steers accumulator
  | true =>
    intro state holds
    cases action with
    | run | halt | capture | clearQuotations => exact holds
    | setCursor position =>
      refine (setCursor_keeps stable.movable _).bind (fun _ => ?_) state holds
      exact .bind (.bind .get fun _ => .pure _) fun _ => .pure _
    | reset =>
      by_cases inside : state.nesting ≠ 0
      · rw [engine.prepare_reset_inside accumulator inside]
        exact holds
      · rw [engine.prepare_reset_shut accumulator (not_not.1 inside)]
        exact stable.clear holds
    | _ => cases steers

theorem errand_holding (engine : Engine) (stable : Stack.Stable kept) (name : Text) :
    (engine.errand name).Keeps (State.Holding kept) := by
  unfold errand
  cases engine.dictionary.meaning name with
  | word word =>
    intro state holds
    dsimp only
    rw [bind_apply, checkArity_apply]
    split
    · exact holds
    · split
      · exact holds
      · cases word.operation with
        | builtin builtin => exact Builtin.errand_keeps stable.movable (fun _ _ => id) _ holds
        | program program => exact holds
  | number value =>
    exact (stable.movable.note _).bind fun _ => (stable.movable.push _).bind fun _ => .pure _
  | unknown => exact .fail _

theorem readWord_holding (engine : Engine) (stable : Stack.Stable kept) :
    engine.readWord.Keeps (State.Holding kept) := by
  refine .bind (nextName?_keeps stable.movable) fun name? => ?_
  cases name? with
  | none => exact .pure _
  | some name => exact .bind (engine.errand_holding stable name) fun _ => .pure _

theorem closeFrame_holding (stable : Stack.Stable kept) (caller : Frame)
    (holds : state.Holding kept) : (state.closeFrame caller).Holding kept := by
  rw [State.closeFrame]
  dsimp only
  split
  · exact stable.clear holds
  · exact holds

theorem Leads.holding (stable : Stack.Stable kept) (leads : engine.Leads asks moment later)
    (holds : moment.state.Holding kept) (whole : later.task ≠ .crashed) :
    later.state.Holding kept := by
  cases leads with
  | @answer _ accumulator action _ _ _ _ prepared | @refuse _ accumulator action _ _ _ _ prepared =>
    have left := engine.prepare_holding stable accumulator action _ holds
    rw [prepared] at left
    rw [State.Holding, Asker.stack_hear]
    exact left
  | @await _ accumulator action _ _ _ _ _ prepared =>
    have left := engine.prepare_holding stable accumulator action _ holds
    rw [prepared] at left
    exact left
  | read word | fail word =>
    have left := engine.readWord_holding stable _ holds
    rw [word] at left
    exact left
  | tooDeep =>
    rw [State.Holding, Waiting.stack_resume]
    exact holds
  | leave =>
    rw [State.Holding, Waiting.stack_resume]
    exact closeFrame_holding stable _ holds
  -- Nothing is known of the stack in a crash.
  | breakAction | breakWord | breakSpan => exact absurd rfl whole
  | request | ask | finish | enter => exact holds

theorem Reaches.holding (stable : Stack.Stable kept)
    (new : ∀ stack, Stack.empty? engine.settings.stackCapacity = some stack → kept stack)
    (reaches : engine.Reaches asks moment) (whole : moment.task ≠ .crashed) :
    moment.state.Holding kept := by
  induction reaches with
  | start started =>
    obtain ⟨stack, made, rfl⟩ := Option.map_eq_some_iff.1 started
    exact new stack made
  | next _ leads ih =>
    refine leads.holding stable (ih fun crashed => ?_) whole
    cases leads <;> cases crashed

theorem Reaches.depth_le_capacity (reaches : engine.Reaches asks moment)
    (whole : moment.task ≠ .crashed) :
    moment.state.stack.depth ≤ moment.state.stack.capacity := by
  refine reaches.holding Stack.stable_fits (fun stack made => ?_) whole
  rw [← Stack.clear_of_empty? made]
  exact Nat.zero_le _

theorem Reaches.new_stack (reaches : engine.Reaches asks moment) (whole : moment.task ≠ .crashed) :
    Stack.empty? engine.settings.stackCapacity = some moment.state.stack.clear := by
  refine reaches.holding (Stack.stable_clear _) (fun stack made => ?_) whole
  rw [made, Stack.clear_of_empty? made]

end Engine

end Stable

end StackScript
